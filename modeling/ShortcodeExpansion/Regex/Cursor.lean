import ShortcodeExpansion.Regex.Fault
import ShortcodeExpansion.Text.Blank

/-!
# A place in a pattern that is being read

A cursor holds the characters that are left, their position, and what reading has gathered so far:
whether blanks and comments are skipped, how many groups were opened, and the names they were given.
-/

set_option autoImplicit false

namespace ShortcodeExpansion.Regex

structure Cursor where
  rest : List Char
  pos : Position := {}
  /-- Blanks are skipped, and `#` starts a comment. -/
  extended : Bool := false
  /-- The number of capture groups opened so far. -/
  groups : Nat := 0
  /-- The names of those groups, with their places. -/
  names : List (String × Span) := []
deriving DecidableEq, Repr

namespace Cursor

def isEnd (c : Cursor) : Bool := c.rest.isEmpty

def at? (c : Cursor) (char : Char) : Bool := c.rest.head? = some char

/-- One character further. -/
def bump (c : Cursor) : Cursor :=
  match c.rest with
  | [] => c
  | char :: rest => { c with rest, pos := c.pos.after char }

/-- Skips blanks and comments; a comment runs to the end of its line. -/
def skipBlanks (inComment : Bool) (pos : Position) : List Char → List Char × Position
  | [] => ([], pos)
  | char :: rest =>
      if inComment then skipBlanks (char ≠ '\n') (pos.after char) rest
      else if isBlankChar char then skipBlanks false (pos.after char) rest
      else if char = '#' then skipBlanks true (pos.after char) rest
      else (char :: rest, pos)

/-- Past blanks and comments, where they are skipped. -/
def bumpSpace (c : Cursor) : Cursor :=
  if c.extended then
    let (rest, pos) := skipBlanks false c.pos c.rest
    { c with rest, pos }
  else c

/-- One character further, then past blanks and comments. -/
def advance (c : Cursor) : Cursor :=
  if c.isEnd then c else c.bump.bumpSpace

def bumpIf? (c : Cursor) (text : List Char) : Option Cursor :=
  if c.rest.take text.length = text then some (text.foldl (fun c _ => c.bump) c) else none

/-- The first character past blanks and the sign that starts a comment. -/
def peekPast (inComment : Bool) : List Char → Option Char
  | [] => none
  | char :: rest =>
      if isBlankChar char then peekPast inComment rest
      else if !inComment && char = '#' then peekPast true rest
      else some char

def peek? (c : Cursor) : Option Char := (c.rest.drop 1).head?

/-- The character after the next one, past blanks where they are skipped. -/
def peekSpace? (c : Cursor) : Option Char :=
  if c.extended then (peekPast false (c.rest.drop 1)).or c.peek? else c.peek?

def charSpan (c : Cursor) : Span :=
  match c.rest with
  | [] => .point c.pos
  | char :: _ => ⟨c.pos, c.pos.after char⟩

def fail {α : Type} (span : Span) (kind : FaultKind) : Except Fault α := .error ⟨kind, span⟩

end Cursor

end ShortcodeExpansion.Regex

/-!
# Positions in a pattern

A position counts the characters before it and gives its line and column, both from one.  A span
runs from one position to another.
-/

set_option autoImplicit false

namespace ShortcodeExpansion.Regex

structure Position where
  index : Nat := 0
  line : Nat := 1
  column : Nat := 1
deriving DecidableEq, Repr, Inhabited

def Position.after (p : Position) (c : Char) : Position :=
  if c = '\n' then ⟨p.index + 1, p.line + 1, 1⟩ else ⟨p.index + 1, p.line, p.column + 1⟩

structure Span where
  start : Position
  stop : Position
deriving DecidableEq, Repr, Inhabited

namespace Span

def point (p : Position) : Span := ⟨p, p⟩

def isOneLine (s : Span) : Bool := s.start.line = s.stop.line

/-- Spans come by start, then by end. -/
def precedes (a b : Span) : Bool :=
  a.start.index < b.start.index || (a.start.index = b.start.index && a.stop.index ≤ b.stop.index)

end Span

end ShortcodeExpansion.Regex

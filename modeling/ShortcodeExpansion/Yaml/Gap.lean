import ShortcodeExpansion.Yaml.Cursor

/-!
# Gaps between the words of a scalar

Between two words of a plain or quoted scalar stand blanks, which are kept, or line breaks, which
are folded: a single one becomes a space, of several the first is dropped.
-/

set_option autoImplicit false

namespace ShortcodeExpansion.Yaml

inductive Gap where
  | blanks (text : List Char)
  /-- The first line break, if it counts, and those after it. -/
  | breaks (first : Option Char) (others : List Char)
deriving DecidableEq, Repr

namespace Gap

def isBreaks : Gap → Bool
  | .blanks _ => false
  | .breaks _ _ => true

/-- Blanks count only before the first line break. -/
def addBlank (char : Char) : Gap → Gap
  | .blanks text => .blanks (text ++ [char])
  | .breaks first others => .breaks first others

def addBreak (char : Char) : Gap → Gap
  | .blanks _ => .breaks (some char) []
  | .breaks first others => .breaks first (others ++ [char])

/-- What is left of a gap in the scalar. -/
def folded : Gap → List Char
  | .blanks text => text
  | .breaks none others => others
  | .breaks (some first) others =>
      if first = '\n' then if others.isEmpty then [' '] else others
      else first :: others

/-- Adds the blanks and line breaks that come next.  After a line break no tab may stand before the
margin. -/
def readFrom (margin : Nat) : Nat → Gap → Cursor → Option (Gap × Cursor)
  | 0, gap, c => some (gap, c)
  | fuel + 1, gap, c =>
      match c.takeBreak? with
      | some (char, next) => readFrom margin fuel (gap.addBreak char) next
      | none =>
          match c.char? with
          | none => some (gap, c)
          | some char =>
              if !isSpacing char then some (gap, c)
              else if gap.isBreaks && c.column < margin && char = '\t' then none
              else readFrom margin fuel (gap.addBlank char) c.skip

def read (margin : Nat) (gap : Gap) (c : Cursor) : Option (Gap × Cursor) :=
  gap.readFrom margin (c.rest.takeWhile isGap).length c

end Gap

end ShortcodeExpansion.Yaml

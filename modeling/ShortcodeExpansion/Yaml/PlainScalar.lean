import ShortcodeExpansion.Yaml.Gap

/-!
# Plain scalars

A plain scalar has no quotes.  It goes on over several lines as long as they reach the margin, and
ends at a colon or a number sign with a gap on the one side or the other; in a flow collection also
at the signs of the collection.
-/

set_option autoImplicit false

namespace ShortcodeExpansion.Yaml

/-- The word that comes next, which may be empty, last character first.  In a flow collection no
sign of a collection may follow a colon. -/
def readPlainWord (inFlow : Bool) : Nat → List Char → Cursor → Option (List Char × Cursor)
  | 0, word, c => some (word, c)
  | fuel + 1, word, c =>
      match c.char? with
      | none => some (word, c)
      | some char =>
          if isGap char then some (word, c)
          else if inFlow && char = ':' && c.isAt 1 fun next => isFlowSign next || next = '?' then
            none
          else if char = ':' && c.gapAt 1 || inFlow && isFlowSign char then some (word, c)
          else readPlainWord inFlow fuel (char :: word) c.skip

/-- A plain scalar that was read. -/
structure PlainText where
  text : List Char
  /-- Whether a line break comes after it. -/
  endsLine : Bool
  after : Cursor

/-- Adds words to the scalar, whose last character comes first, each with the gap before it. -/
def readPlainText (inFlow : Bool) (margin : Nat) : Nat → List Char → Gap → Cursor →
    Option PlainText
  | 0, text, gap, c => some ⟨text.reverse, gap.isBreaks, c⟩
  | fuel + 1, text, gap, c => do
      if c.atBoundary || c.isNext '#' then some ⟨text.reverse, gap.isBreaks, c⟩
      else
        let (word, c) ← readPlainWord inFlow (c.rest.takeWhile (!isGap ·)).length [] c
        let gapBefore := if word.isEmpty then gap else .blanks []
        let text := if word.isEmpty then text else word ++ gap.folded.reverse ++ text
        if !c.isAt 0 isGap then some ⟨text.reverse, gapBefore.isBreaks, c⟩
        else
          let (gap, c) ← gapBefore.read margin c
          if !inFlow && c.column < margin then some ⟨text.reverse, gap.isBreaks, c⟩
          else readPlainText inFlow margin fuel text gap c

def readPlain (inFlow : Bool) (margin : Nat) (c : Cursor) : Option PlainText :=
  readPlainText inFlow margin (c.rest.length + 1) [] (.blanks []) c

end ShortcodeExpansion.Yaml

import ShortcodeExpansion.Regex.Expr
import ShortcodeExpansion.Text.WordChar

/-!
# Attempts

An attempt to match is a place in a text with the positions noted on the way there.  Group `i` notes
where it starts in slot `2i` and where it ends in slot `2i + 1`; of two notes in one slot the later
counts.
-/

set_option autoImplicit false

namespace ShortcodeExpansion.Regex

structure Attempt where
  /-- The character before the place. -/
  before : Option Char
  /-- The number of characters before the place. -/
  pos : Nat
  /-- The characters after the place. -/
  rest : List Char
  /-- The positions noted, newest first. -/
  slots : List (Nat × Nat) := []
deriving DecidableEq, Repr

namespace Attempt

/-- Over the next character, if it belongs to a set. -/
def consume? (a : Attempt) (chars : CharSet) : Option Attempt :=
  match a.rest with
  | [] => none
  | c :: rest => if chars.contains c then some ⟨some c, a.pos + 1, rest, a.slots⟩ else none

def note (a : Attempt) (slot : Nat) : Attempt := { a with slots := (slot, a.pos) :: a.slots }

end Attempt

/-- The position last noted in a slot. -/
def slot? (slots : List (Nat × Nat)) (slot : Nat) : Option Nat :=
  (slots.find? fun entry => entry.1 = slot).map (·.2)

/-- Whether a character, if there is one, belongs to a word. -/
def isWordAt (ascii : Bool) : Option Char → Bool
  | none => false
  | some c => if ascii then c.isAlphanum || c = '_' else isWordChar c

def WordEdge.holds (edge : WordEdge) (before after : Bool) : Bool :=
  match edge with
  | .boundary => before != after
  | .inside => before == after
  | .start => !before && after
  | .stop => before && !after
  | .startHalf => !before
  | .stopHalf => !after

/-- Whether a condition holds between two characters; at an end of the text one of them is
absent. -/
def Look.holds (look : Look) (before after : Option Char) : Bool :=
  match look with
  | .textStart => before.isNone
  | .textEnd => after.isNone
  | .lineStart => before.isNone || before = some '\n'
  | .lineEnd => after.isNone || after = some '\n'
  | .anyLineStart =>
      before.isNone || before = some '\n' || (before = some '\r' && after ≠ some '\n')
  | .anyLineEnd =>
      after.isNone || after = some '\r' || (after = some '\n' && before ≠ some '\r')
  | .word edge ascii => edge.holds (isWordAt ascii before) (isWordAt ascii after)

def Attempt.satisfies (a : Attempt) (look : Look) : Bool := look.holds a.before a.rest.head?

end ShortcodeExpansion.Regex

import ShortcodeExpansion.Text.CharSet

/-!
# Expressions

What a pattern means, free of the way it was written: sets of characters, assertions, groups,
sequences, alternatives and repetitions.
-/

set_option autoImplicit false

namespace ShortcodeExpansion.Regex

/-- A condition on where words begin and end. -/
inductive WordEdge where
  | boundary
  | inside
  | start
  | stop
  | startHalf
  | stopHalf
deriving DecidableEq, Repr, Inhabited

/-- A condition on a place in a text. -/
inductive Look where
  | textStart
  | textEnd
  | lineStart
  | lineEnd
  /-- Lines end in a carriage return, a line feed, or both. -/
  | anyLineStart
  | anyLineEnd
  /-- Words are made of ASCII characters only, if `ascii`. -/
  | word (edge : WordEdge) (ascii : Bool)
deriving DecidableEq, Repr, Inhabited

inductive Expr where
  | empty
  | set (chars : CharSet)
  | look (look : Look)
  | group (index : Nat) (name : Option String) (body : Expr)
  | seq (first second : Expr)
  | alt (first second : Expr)
  | rep (min : Nat) (max : Option Nat) (greedy : Bool) (body : Expr)
deriving DecidableEq, Repr, Inhabited

namespace Expr

/-- The greatest index of a group in an expression. -/
def maxGroup : Expr → Nat
  | .group index _ body => max index body.maxGroup
  | .seq a b => max a.maxGroup b.maxGroup
  | .alt a b => max a.maxGroup b.maxGroup
  | .rep _ _ _ body => body.maxGroup
  | .empty | .set _ | .look _ => 0

def groupNames : Expr → List (String × Nat)
  | .group index name body => (name.map fun n => (n, index)).toList ++ body.groupNames
  | .seq a b => a.groupNames ++ b.groupNames
  | .alt a b => a.groupNames ++ b.groupNames
  | .rep _ _ _ body => body.groupNames
  | .empty | .set _ | .look _ => []

/-- A sequence; an empty part adds nothing. -/
def andThen (a b : Expr) : Expr :=
  match a, b with
  | .empty, b => b
  | a, .empty => a
  | a, b => .seq a b

/-- Whether no match takes a character, for expressions where that shows. -/
def isZeroWidth : Expr → Bool
  | .empty => true
  | .look _ => true
  | .set _ => false
  | .group _ _ body => body.isZeroWidth
  | .seq a b => a.isZeroWidth && b.isZeroWidth
  | .alt a b => a.isZeroWidth && b.isZeroWidth
  | .rep _ max _ body => max.isSome && body.isZeroWidth

/-- A repetition.  What takes no character need not be repeated, none at all is the empty expression
whatever is repeated, and exactly one is the body. -/
def repeated (min : Nat) (max : Option Nat) (greedy : Bool) (body : Expr) : Expr :=
  let (min, max) :=
    if body.isZeroWidth then (Nat.min min 1, some ((max.map (Nat.min · 1)).getD 1)) else (min, max)
  if max = some 0 then .empty
  else if min = 1 && max = some 1 then body
  else .rep min max greedy body

end Expr

end ShortcodeExpansion.Regex

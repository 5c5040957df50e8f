import ShortcodeExpansion.Regex.Code
import ShortcodeExpansion.Text.ByteRange

/-!
# The size of a pattern

A pattern is charged for the byte automata that recognise it, one that reads a text forward and one
that reads it backward.  Every state takes 32 bytes, every range of bytes that a state with several
ways out tells apart takes 8 more, and every choice of a state that takes no byte takes 4 more.
Forward, the states of a set of characters are shared wherever what they still allow is the same;
backward they are shared wherever what led to them is the same.
-/

set_option autoImplicit false

namespace ShortcodeExpansion.Regex

inductive Direction where
  | forward
  | backward
deriving DecidableEq, Repr

/-- A state without ways out of its own. -/
def stateBytes : Nat := 32

/-- A state that tells ranges of bytes apart. -/
def rangesBytes (count : Nat) : Nat := stateBytes + 8 * count

/-- A state that chooses among others. -/
def choiceBytes (count : Nat) : Nat := stateBytes + 4 * count

/-- What the states that read a byte still allow, for runs of at most `length` bytes. -/
def remainders : (length : Nat) → List ByteRun → List (List ByteRun)
  | 0, _ => []
  | length + 1, runs =>
      if runs.all List.isEmpty then []
      else runs :: (ByteRun.branches runs).flatMap fun branch => remainders length branch.2

/-- The number of ways to start some of the runs, of at most `length` bytes, the empty one left
out. -/
def beginnings : (length : Nat) → List ByteRun → Nat
  | 0, _ => 0
  | length + 1, runs =>
      ((ByteRun.branches runs).map fun branch => 1 + beginnings length branch.2).sum

/-- The size of a set of characters.  One character has a state for each byte. -/
def setBytes (direction : Direction) (chars : CharSet) : Nat :=
  match chars.single? with
  | some c => stateBytes * c.utf8Size
  | none =>
      if chars.isAscii then stateBytes + rangesBytes chars.ranges.length
      else
        let runs := chars.byteRuns
        match direction with
        | .forward =>
            let states := (remainders 4 runs).eraseDups
            states.foldl (fun size state => size + rangesBytes (ByteRun.branches state).length)
              stateBytes
        | .backward =>
            choiceBytes runs.length + stateBytes + stateBytes * beginnings 4 runs

namespace Expr

/-- The alternatives of an expression, those of an alternative among them. -/
def alternatives : Expr → List Expr
  | .alt a b => a.alternatives ++ b.alternatives
  | e => [e]

def set? : Expr → Option CharSet
  | .set chars => some chars
  | _ => none

/-- The set that alternatives come to, if all are single characters or all are other sets. -/
def joinedSet? (alternatives : List Expr) : Option CharSet := do
  let sets ← alternatives.mapM set?
  let singles := sets.filter fun chars => chars.single?.isSome
  if singles.isEmpty || singles.length = sets.length then some (sets.foldl CharSet.union .empty)
  else none

/-- The size of the automaton of an expression.  `inside` tells that it is an alternative of an
expression whose choice has room for it. -/
def bytes (direction : Direction) (inside : Bool) : Expr → Nat
  | .empty => stateBytes
  | .set chars => setBytes direction chars
  | .look _ => stateBytes
  | .group _ _ body =>
      (match direction with
        | .forward => 2 * stateBytes
        | .backward => 0) + body.bytes direction false
  | .seq a b => a.bytes direction false + b.bytes direction false
  | .alt a b =>
      let size := a.bytes direction true + b.bytes direction true
      if inside then size + 4
      else
        match joinedSet? (a.alternatives ++ b.alternatives) with
        | some chars => setBytes direction chars
        | none => choiceBytes 2 + stateBytes + size
  | .rep min max _ body =>
      let size := body.bytes direction false
      match min, max with
      | 0, some 1 => choiceBytes 2 + stateBytes + size
      | 0, none =>
          if body.alwaysTakes then choiceBytes 1 + 4 + size
          else 2 * choiceBytes 2 + stateBytes + size
      | min, none => min * size + choiceBytes 2
      | min, some max =>
          let required := if min = 0 then stateBytes else min * size
          if min = max then required
          else required + stateBytes + (max - min) * (choiceBytes 2 + size)

/-- The states around those of the expression: the loop that passes over the text before a match,
the ends of the match where they are noted, and the state reached at last. -/
def frameBytes : Direction → Nat
  | .forward => stateBytes + rangesBytes 1 + choiceBytes 2 + 2 * stateBytes + stateBytes
  | .backward => stateBytes + rangesBytes 1 + choiceBytes 2 + stateBytes

/-- Whether the automata of an expression take no more than a number of bytes each. -/
def fits (e : Expr) (limit : Nat) : Bool :=
  frameBytes .forward + e.bytes .forward false ≤ limit &&
    frameBytes .backward + e.bytes .backward false ≤ limit

end Expr

end ShortcodeExpansion.Regex

import ShortcodeExpansion.Regex.Expr

/-!
# Code

The code of an expression is a row of instructions, each of which names the ones that may follow it.
The code of a part starts at its first instruction, so the place of every part is known from the
sizes of those before it, and what lies past the end of the code is where a match ends.  A
repetition of a body that takes at least one character has a single choice, passed before each
round; a body that may take none is first entered without that choice, so that an empty round still
counts.
-/

set_option autoImplicit false

namespace ShortcodeExpansion.Regex

inductive Instruction where
  /-- Takes a character of a set. -/
  | take (chars : CharSet) (next : Nat)
  | check (look : Look) (next : Nat)
  /-- Notes the place in a slot. -/
  | note (slot next : Nat)
  /-- Goes on at the first address, and if that fails at the second. -/
  | choose (preferred other : Nat)
  | jump (next : Nat)
deriving DecidableEq, Repr, Inhabited

namespace Instruction

/-- The choice between another round and going on. -/
def roundOrLeave (greedy : Bool) (round leave : Nat) : Instruction :=
  if greedy then .choose round leave else .choose leave round

end Instruction

namespace Expr

/-- The least number of characters of a match; none for an expression with a part that never
matches. -/
def minLength? : Expr → Option Nat
  | .empty => some 0
  | .set chars => if chars.isEmpty then none else some 1
  | .look _ => some 0
  | .group _ _ body => body.minLength?
  | .seq a b =>
      match a.minLength?, b.minLength? with
      | some m, some n => some (m + n)
      | _, _ => none
  | .alt a b =>
      match a.minLength?, b.minLength? with
      | some m, some n => some (min m n)
      | _, _ => none
  | .rep min _ _ body => body.minLength?.map (· * min)

/-- Whether every match takes a character. -/
def alwaysTakes (e : Expr) : Bool := (e.minLength?.map fun n => decide (0 < n)).getD false

end Expr

/-- The code of a number of copies in a row; `body` gives the code of one at an address, with the
address to go on at. -/
def copies (size : Nat) (body : Nat → Nat → List Instruction) (base next : Nat) :
    Nat → List Instruction
  | 0 => []
  | 1 => body base next
  | count + 2 => body base (base + size) ++ copies size body (base + size) next (count + 1)

/-- The code of a number of copies in a row, each of which may be the one to stop before. -/
def optionalCopies (size : Nat) (body : Nat → Nat → List Instruction) (greedy : Bool)
    (base next : Nat) : Nat → List Instruction
  | 0 => []
  | count + 1 =>
      let after := if count = 0 then next else base + 1 + size
      .roundOrLeave greedy (base + 1) next :: body (base + 1) after ++
        optionalCopies size body greedy (base + 1 + size) next count

namespace Expr

/-- The number of instructions of an expression. -/
def codeSize : Expr → Nat
  | .empty => 1
  | .set _ => 1
  | .look _ => 1
  | .group _ _ body => body.codeSize + 2
  | .seq a b => a.codeSize + b.codeSize
  | .alt a b => a.codeSize + b.codeSize + 1
  | .rep min (some max) _ body =>
      if max = 0 then 1 else min * body.codeSize + (max - min) * (body.codeSize + 1)
  | .rep 0 none _ body => if body.alwaysTakes then body.codeSize + 1 else body.codeSize + 2
  | .rep (min + 1) none _ body => (min + 1) * body.codeSize + 1

/-- The code of an expression at an address, with the address to go on at. -/
def codeAt : Expr → Nat → Nat → List Instruction
  | .empty, _, next => [.jump next]
  | .set chars, _, next => [.take chars next]
  | .look l, _, next => [.check l next]
  | .group index _ body, base, next =>
      let stop := base + 1 + body.codeSize
      .note (2 * index) (base + 1) :: body.codeAt (base + 1) stop ++ [.note (2 * index + 1) next]
  | .seq a b, base, next =>
      let middle := base + a.codeSize
      a.codeAt base middle ++ b.codeAt middle next
  | .alt a b, base, next =>
      let second := base + 1 + a.codeSize
      .choose (base + 1) second :: a.codeAt (base + 1) next ++ b.codeAt second next
  | .rep min (some max) greedy body, base, next =>
      if max = 0 then [.jump next]
      else
        let size := body.codeSize
        let optional := base + min * size
        copies size body.codeAt base (if max ≤ min then next else optional) min ++
          optionalCopies size body.codeAt greedy optional next (max - min)
  | .rep 0 none greedy body, base, next =>
      if body.alwaysTakes then
        .roundOrLeave greedy (base + 1) next :: body.codeAt (base + 1) base
      else
        let decision := base + 1 + body.codeSize
        .roundOrLeave greedy (base + 1) next :: body.codeAt (base + 1) decision ++
          [.roundOrLeave greedy (base + 1) next]
  | .rep (min + 1) none greedy body, base, next =>
      let size := body.codeSize
      let last := base + min * size
      copies size body.codeAt base (last + size) (min + 1) ++ [.roundOrLeave greedy last next]

/-- The code of an expression from address zero on. -/
def code (e : Expr) : Array Instruction := (e.codeAt 0 e.codeSize).toArray

end Expr

end ShortcodeExpansion.Regex

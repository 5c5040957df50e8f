import ShortcodeExpansion.Regex.Attempt
import ShortcodeExpansion.Regex.Code
import Std.Data.HashSet

/-!
# Searching a text

A search looks for the first place at which an expression matches, and takes the preferred match
there.  The expression is laid out as a row of items: a set of characters, an assertion, a loop over
one set, or the code of a part that is none of these.  What an item does at a place does not depend
on how the place was reached, so an item that was tried at a place is not tried there again.
-/

set_option autoImplicit false

namespace ShortcodeExpansion.Regex

inductive Item where
  | single (chars : CharSet)
  | look (look : Look)
  /-- Notes the place in a slot. -/
  | slot (index : Nat)
  /-- Any number of characters of a set. -/
  | loop (chars : CharSet) (greedy : Bool)
  /-- A part that is no row of items, as code. -/
  | code (instructions : Array Instruction)
deriving DecidableEq, Repr

/-- Lays out an expression in front of items. -/
def layOut : Expr → List Item → List Item
  | .empty, after => after
  | .set chars, after => .single chars :: after
  | .look look, after => .look look :: after
  | .group index _ body, after =>
      .slot (2 * index) :: layOut body (.slot (2 * index + 1) :: after)
  | .seq first second, after => layOut first (layOut second after)
  | .rep 0 none greedy (.set chars), after => .loop chars greedy :: after
  | .rep 1 none greedy (.set chars), after => .single chars :: .loop chars greedy :: after
  | expr, after => .code expr.code :: after

/-- Items with their numbers. -/
abbrev Layout := List (Item × Nat)

def Expr.layout (expr : Expr) : Layout := (layOut expr []).zipIdx

/-- What was tried: the number of an item, an address in its code, and a position in the text. -/
abbrev Tried := Std.HashSet (Nat × Nat × Nat)

/-- What to do at a place, knowing what was tried: the end of the match, and what was tried then. -/
abbrev Continuation := Attempt → Tried → Option Attempt × Tried

/-- The attempts that a loop reaches, farthest first, up to a place where the loop was tried. -/
def loopReach (chars : CharSet) (label : Nat) (tried : Tried) (slots : List (Nat × Nat))
    (reached : List Attempt) (before : Option Char) (pos : Nat) : List Char → List Attempt
  | [] => if tried.contains (label, 0, pos) then reached else ⟨before, pos, [], slots⟩ :: reached
  | c :: rest =>
      if tried.contains (label, 0, pos) then reached
      else
        let reached := ⟨before, pos, c :: rest, slots⟩ :: reached
        if chars.contains c then loopReach chars label tried slots reached (some c) (pos + 1) rest
        else reached

/-- Leaves a loop at the first attempt that leads to a match. -/
def leaveLoop (label : Nat) (next : Continuation) :
    List Attempt → Tried → Option Attempt × Tried
  | [], tried => (none, tried)
  | a :: rest, tried =>
      match next a tried with
      | (some b, tried) => (some b, tried)
      | (none, tried) => leaveLoop label next rest (tried.insert (label, 0, a.pos))

/-- A loop that stops as soon as it can. -/
def lazyLoop (chars : CharSet) (label : Nat) (next : Continuation) (slots : List (Nat × Nat))
    (before : Option Char) (pos : Nat) : List Char → Tried → Option Attempt × Tried
  | [], tried =>
      if tried.contains (label, 0, pos) then (none, tried)
      else
        match next ⟨before, pos, [], slots⟩ tried with
        | (some b, tried) => (some b, tried)
        | (none, tried) => (none, tried.insert (label, 0, pos))
  | c :: rest, tried =>
      if tried.contains (label, 0, pos) then (none, tried)
      else
        match next ⟨before, pos, c :: rest, slots⟩ tried with
        | (some b, tried) => (some b, tried)
        | (none, tried) =>
            let tried := tried.insert (label, 0, pos)
            if chars.contains c then
              lazyLoop chars label next slots (some c) (pos + 1) rest tried
            else (none, tried)

/-- Runs code: the addresses still to be tried, each with its attempt, are worked off in order.
Past the end of the code the continuation takes over. -/
def runCode (code : Array Instruction) (label : Nat) (next : Continuation) :
    Nat → List (Nat × Attempt) → Tried → Option Attempt × Tried
  | 0, _, tried => (none, tried)
  | _ + 1, [], tried => (none, tried)
  | fuel + 1, (address, a) :: others, tried =>
      if tried.contains (label, address, a.pos) then runCode code label next fuel others tried
      else
        let tried := tried.insert (label, address, a.pos)
        match code[address]? with
        | none =>
            match next a tried with
            | (some b, tried) => (some b, tried)
            | (none, tried) => runCode code label next fuel others tried
        | some (.take chars address) =>
            match a.consume? chars with
            | some b => runCode code label next fuel ((address, b) :: others) tried
            | none => runCode code label next fuel others tried
        | some (.check look address) =>
            if a.satisfies look then runCode code label next fuel ((address, a) :: others) tried
            else runCode code label next fuel others tried
        | some (.note slot address) =>
            runCode code label next fuel ((address, a.note slot) :: others) tried
        | some (.choose preferred other) =>
            runCode code label next fuel ((preferred, a) :: (other, a) :: others) tried
        | some (.jump address) => runCode code label next fuel ((address, a) :: others) tried

/-- Enough rounds to try every address at every place: each adds at most two to what is left. -/
def codeFuel (code : Array Instruction) (a : Attempt) : Nat :=
  2 * (code.size + 1) * (a.rest.length + 1) + 2

/-- The preferred end of a match of items from a place. -/
def matchItems : Layout → Continuation
  | [], a, tried => (some a, tried)
  | (.single chars, _) :: rest, a, tried =>
      match a.consume? chars with
      | some b => matchItems rest b tried
      | none => (none, tried)
  | (.look look, _) :: rest, a, tried =>
      if a.satisfies look then matchItems rest a tried else (none, tried)
  | (.slot index, _) :: rest, a, tried => matchItems rest (a.note index) tried
  | (.loop chars true, label) :: rest, a, tried =>
      leaveLoop label (matchItems rest)
        (loopReach chars label tried a.slots [] a.before a.pos a.rest) tried
  | (.loop chars false, label) :: rest, a, tried =>
      lazyLoop chars label (matchItems rest) a.slots a.before a.pos a.rest tried
  | (.code code, label) :: rest, a, tried =>
      runCode code label (matchItems rest) (codeFuel code a) [(0, a)] tried

/-- A match: where it starts and ends, and the positions its groups noted. -/
structure Match where
  start : Nat
  stop : Nat
  slots : List (Nat × Nat)
deriving DecidableEq, Repr

/-- Where a group of a match starts and ends.  Group zero is the match itself. -/
def Match.group? (m : Match) (index : Nat) : Option (Nat × Nat) :=
  if index = 0 then some (m.start, m.stop)
  else
    match slot? m.slots (2 * index), slot? m.slots (2 * index + 1) with
    | some start, some stop => some (start, stop)
    | _, _ => none

/-- The match at a place, if there is one that may be taken, and what was tried in vain; of that
nothing is kept after a match.  An empty match right after the match before it, which ended at
`lastEnd`, may not be taken. -/
def matchAt (layout : Layout) (lastEnd : Option Nat) (a : Attempt) (tried : Tried) :
    Option Match × Tried :=
  match matchItems layout a tried with
  | (none, tried) => (none, tried)
  | (some b, _) =>
      if b.pos = a.pos && lastEnd = some a.pos then (none, {})
      else (some ⟨a.pos, b.pos, b.slots⟩, {})

/-- The matches of a text from left to right, without overlap.  Places before `resume` lie inside
the match found last; `found` holds the matches so far, last first. -/
def scan (layout : Layout) (resume : Nat) (lastEnd : Option Nat) (found : List Match)
    (before : Option Char) (pos : Nat) (tried : Tried) : List Char → List Match
  | [] =>
      if pos < resume then found.reverse
      else
        match matchAt layout lastEnd ⟨before, pos, [], []⟩ tried with
        | (some m, _) => (m :: found).reverse
        | (none, _) => found.reverse
  | c :: rest =>
      if pos < resume then scan layout resume lastEnd found (some c) (pos + 1) tried rest
      else
        match matchAt layout lastEnd ⟨before, pos, c :: rest, []⟩ tried with
        | (some m, tried) =>
            scan layout m.stop (some m.stop) (m :: found) (some c) (pos + 1) tried rest
        | (none, tried) => scan layout resume lastEnd found (some c) (pos + 1) tried rest

def allMatches (expr : Expr) (text : List Char) : List Match :=
  scan expr.layout 0 none [] none 0 {} text

end ShortcodeExpansion.Regex

import ShortcodeExpansion.Diff.Basic

/-!
# The middle of a shortest script

A script is a path through a grid whose columns are the old items and whose rows are the new ones; a
step to the right deletes, a step down inserts, and a step along a diagonal keeps.  Paths are
followed from both corners at once, with one more edit in each round, until two of them meet.
-/

set_option autoImplicit false

namespace ShortcodeExpansion.Diff

/-- For each diagonal the column that the paths with a number of edits have reached on it.  A
diagonal's number is the column less the row. -/
structure Frontier where
  centre : Nat
  columns : Array Nat

namespace Frontier

def start (size : Nat) : Frontier := ⟨size, Array.replicate (2 * size + 1) 0⟩

def get (f : Frontier) (diagonal : Int) : Nat := f.columns.getD (f.centre + diagonal).toNat 0

def set (f : Frontier) (diagonal : Int) (column : Nat) : Frontier :=
  { f with columns := f.columns.setIfInBounds (f.centre + diagonal).toNat column }

/-- Where paths with a number of edits come onto a diagonal: from the one on either side, whichever
lets them get further. -/
def entry (f : Frontier) (edits : Nat) (diagonal : Int) : Nat :=
  let fromAbove :=
    diagonal = -edits || (diagonal ≠ edits && f.get (diagonal - 1) < f.get (diagonal + 1))
  if fromAbove then f.get (diagonal + 1) else f.get (diagonal - 1) + 1

end Frontier

variable {α : Type} [DecidableEq α]

/-- How far two lists agree from a column and a row on. -/
def agreement (old new : Array α) : Nat → Nat → Nat → Nat
  | 0, _, _ => 0
  | fuel + 1, column, row =>
      match old[column]?, new[row]? with
      | some a, some b => if a = b then agreement old new fuel (column + 1) (row + 1) + 1 else 0
      | _, _ => 0

structure Stretch where
  column : Nat
  row : Nat
  length : Nat
deriving Repr

/-- What came of following paths for a round. -/
inductive Round where
  | goOn (frontier : Frontier)
  | met (stretch : Stretch)

/-- Follows the paths with a number of edits on some diagonals. -/
def followOn (old new : Array α) (edits : Nat) (meets : Int → Nat → Bool) :
    List Int → Frontier → Round
  | [], f => .goOn f
  | diagonal :: rest, f =>
      let column := f.entry edits diagonal
      let row := (column - diagonal).toNat
      let length := agreement old new old.size column row
      if meets diagonal (column + length) then .met ⟨column, row, length⟩
      else followOn old new edits meets rest (f.set diagonal (column + length))

/-- The diagonals that paths with a number of edits end on, from the right. -/
def diagonals (edits : Nat) : List Int :=
  (List.range (edits + 1)).map fun (i : Nat) => (edits : Int) - 2 * i

/-- Both lists, forwards and backwards. -/
structure Grid (α : Type) where
  old : Array α
  new : Array α
  oldBack : Array α
  newBack : Array α

namespace Grid

def ofLists (old new : List α) : Grid α :=
  ⟨old.toArray, new.toArray, old.reverse.toArray, new.reverse.toArray⟩

/-- The diagonal of the far corner. -/
def corner (g : Grid α) : Int := (g.old.size : Int) - g.new.size

/-- Whether a path that has come to a column meets one from the other corner.  They are compared
where the numbers of their diagonals add up to that of the far corner, and only if the other's
diagonal was followed already. -/
def meets (g : Grid α) (other : Frontier) (followed : Int) (diagonal : Int) (column : Nat) : Bool :=
  (diagonal - g.corner).natAbs ≤ followed && g.old.size ≤ column + other.get (g.corner - diagonal)

/-- Follows paths until two meet, and gives the place where their stretch begins. -/
def middleFrom (g : Grid α) : Nat → Nat → Frontier → Frontier → Option (Nat × Nat)
  | 0, _, _, _ => none
  | fuel + 1, edits, ahead, back =>
      let odd := g.corner % 2 = 1
      let meetsBack := fun k x => odd && g.meets back (edits - 1) k x
      match followOn g.old g.new edits meetsBack (diagonals edits) ahead with
      | .met stretch => some (stretch.column, stretch.row)
      | .goOn ahead =>
          let meetsAhead := fun k x => !odd && g.meets ahead edits k x
          match followOn g.oldBack g.newBack edits meetsAhead (diagonals edits) back with
          | .met stretch =>
              some (g.old.size - (stretch.column + stretch.length),
                g.new.size - (stretch.row + stretch.length))
          | .goOn back => middleFrom g fuel (edits + 1) ahead back

/-- A place on a shortest path, about halfway. -/
def middle? (g : Grid α) : Option (Nat × Nat) :=
  let size := (g.old.size + g.new.size + 1) / 2 + 1
  g.middleFrom size 0 (.start (size + 1)) (.start (size + 1))

end Grid

end ShortcodeExpansion.Diff

/-!
# Sets of characters

A set of Unicode scalar values is kept as closed ranges of code points, ascending, disjoint and with
a gap between neighbours.  `CharSet.ofRanges` brings any list of ranges into that form; union,
complement, intersection and the two differences are built from it.  Surrogate code points are in
no set, so a complement leaves them out.
-/

set_option autoImplicit false

namespace ShortcodeExpansion

/-- The code points from `lo` to `hi`, both ends included. -/
structure CodeRange where
  lo : Nat
  hi : Nat
deriving DecidableEq, Repr, Inhabited

/-- A set of characters, as ascending ranges with gaps between them. -/
structure CharSet where
  ranges : List CodeRange
deriving DecidableEq, Repr, Inhabited

namespace CharSet

/-- The greatest code point. -/
def maxCode : Nat := 0x10FFFF

/-- Joins ranges that overlap or touch; `current` is the range being grown. -/
def joinFrom (current : CodeRange) : List CodeRange → List CodeRange
  | [] => [current]
  | next :: rest =>
      if next.lo ≤ current.hi + 1 then
        joinFrom ⟨current.lo, max current.hi next.hi⟩ rest
      else
        current :: joinFrom next rest

/-- Joins the ranges of a list that ascends by lower end. -/
def joinSorted : List CodeRange → List CodeRange
  | [] => []
  | first :: rest => joinFrom first rest

/-- The part of a range on each side of the surrogates. -/
def withoutSurrogates (r : CodeRange) : List CodeRange :=
  [⟨r.lo, min r.hi 0xD7FF⟩, ⟨max r.lo 0xE000, min r.hi maxCode⟩].filter fun part =>
    part.lo ≤ part.hi

/-- The set of the scalar values that lie in some of the ranges. -/
def ofRanges (ranges : List CodeRange) : CharSet :=
  ⟨joinSorted ((ranges.flatMap withoutSurrogates).mergeSort fun a b => a.lo ≤ b.lo)⟩

/-- The set given by pairs of first and last code points. -/
def ofPairs (pairs : List (Nat × Nat)) : CharSet :=
  ofRanges (pairs.map fun pair => ⟨pair.1, pair.2⟩)

def empty : CharSet := ⟨[]⟩

/-- Every scalar value. -/
def all : CharSet := ⟨[⟨0, 0xD7FF⟩, ⟨0xE000, maxCode⟩]⟩

def singleton (c : Char) : CharSet := ⟨[⟨c.toNat, c.toNat⟩]⟩

def isEmpty (s : CharSet) : Bool := s.ranges.isEmpty

/-- Whether a code point lies in one of ascending ranges. -/
def memRanges (code : Nat) : List CodeRange → Bool
  | [] => false
  | r :: rest =>
      if code < r.lo then false
      else if code ≤ r.hi then true
      else memRanges code rest

def contains (s : CharSet) (c : Char) : Bool := memRanges c.toNat s.ranges

def union (a b : CharSet) : CharSet := ofRanges (a.ranges ++ b.ranges)

/-- The gaps before, between and after ascending ranges; `next` is the first code point not yet
accounted for. -/
def gapsFrom (next : Nat) : List CodeRange → List CodeRange
  | [] => [⟨next, maxCode⟩]
  | r :: rest =>
      if next < r.lo then ⟨next, r.lo - 1⟩ :: gapsFrom (r.hi + 1) rest
      else gapsFrom (r.hi + 1) rest

def complement (s : CharSet) : CharSet :=
  ofRanges ((gapsFrom 0 s.ranges).filter fun r => r.lo ≤ r.hi)

def inter (a b : CharSet) : CharSet := complement (union (complement a) (complement b))

def diff (a b : CharSet) : CharSet := inter a (complement b)

def symmDiff (a b : CharSet) : CharSet := diff (union a b) (inter a b)

/-- Whether every member is below 128. -/
def isAscii (s : CharSet) : Bool := s.ranges.all fun r => r.hi < 0x80

/-- The one member of a set with exactly one member. -/
def single? (s : CharSet) : Option Char :=
  match s.ranges with
  | [r] => if r.lo = r.hi then some (Char.ofNat r.lo) else none
  | _ => none

@[simp] theorem contains_singleton (c d : Char) :
    (CharSet.singleton c).contains d = decide (d = c) := by
  have same : d = c ↔ d.toNat = c.toNat := ⟨fun h => h ▸ rfl, fun h => Char.toNat_inj.mp h⟩
  simp only [singleton, contains, memRanges, same]
  grind

@[simp] theorem contains_all (c : Char) : CharSet.all.contains c = true := by
  have valid : c.toNat < 0xD800 ∨ 0xDFFF < c.toNat ∧ c.toNat < 0x110000 := c.valid
  simp only [all, contains, memRanges, maxCode]
  grind

end CharSet

end ShortcodeExpansion

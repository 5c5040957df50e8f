import ShortcodeExpansion.Template.Reference

/-!
# Allocation of group numbers

An allocation hands out the positive numbers that are not reserved, smallest first.  The numbers a
template refers to are reserved from the start, and a number handed out is reserved as well.
-/

set_option autoImplicit false

namespace ShortcodeExpansion.Template

/-- The reserved numbers, and the number at which the search for a free one starts. -/
structure Allocation where
  reserved : List Nat := []
  cursor : Nat := 0
deriving DecidableEq, Repr

namespace Allocation

/-- The first number from `index` on that is not reserved, of the next `reach` + 1 numbers. -/
def firstFree (reserved : List Nat) : Nat → Nat → Nat
  | 0, index => index
  | reach + 1, index =>
      if reserved.contains index then firstFree reserved reach (index + 1) else index

/-- An allocation that leaves out the numbers a template refers to. -/
def ofTemplate (template : String) : Allocation :=
  ⟨(explicitReferences template).eraseDups, 1⟩

/-- The number handed out next.  Among one more number than are reserved, one is free. -/
def next (a : Allocation) : Nat := firstFree a.reserved a.reserved.length (max a.cursor 1)

/-- The allocation after its next number was handed out. -/
def advance (a : Allocation) : Allocation := ⟨a.next :: a.reserved, a.next + 1⟩

def isReserved (a : Allocation) (index : Nat) : Bool := a.reserved.contains index

end Allocation

end ShortcodeExpansion.Template

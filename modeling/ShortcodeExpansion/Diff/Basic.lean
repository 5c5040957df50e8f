/-!
# Edits that turn one list into another

A script keeps, deletes and inserts items, in runs or one by one.  What it keeps and deletes is the
old list, what it keeps and inserts the new one.
-/

set_option autoImplicit false

namespace ShortcodeExpansion.Diff

inductive Change where
  | keep
  | delete
  | insert
deriving DecidableEq, Repr, Inhabited

/-- Items that are treated alike. -/
structure Run (α : Type) where
  change : Change
  items : List α
deriving DecidableEq, Repr

structure Edit (α : Type) where
  change : Change
  item : α
deriving DecidableEq, Repr

variable {α : Type}

def Run.edits (run : Run α) : List (Edit α) := run.items.map (⟨run.change, ·⟩)

def oldItems (script : List (Edit α)) : List α :=
  (script.filter fun edit => edit.change ≠ .insert).map Edit.item

def newItems (script : List (Edit α)) : List α :=
  (script.filter fun edit => edit.change ≠ .delete).map Edit.item

/-- How many items two lists have in common at their starts. -/
def commonPrefix [DecidableEq α] : List α → List α → Nat
  | a :: as, b :: bs => if a = b then commonPrefix as bs + 1 else 0
  | _, _ => 0

/-- How many items two lists have in common at their ends. -/
def commonSuffix [DecidableEq α] (as bs : List α) : Nat := commonPrefix as.reverse bs.reverse

end ShortcodeExpansion.Diff

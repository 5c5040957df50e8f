import ShortcodeExpansion.Diff.Middle

/-!
# Scripts

A script is made by keeping what two lists have in common at either end, and dividing the rest at
the middle of a shortest script.  Then deletions and after them insertions are moved up and down
along what is kept, and those that come to stand side by side become one.
-/

set_option autoImplicit false

namespace ShortcodeExpansion.Diff

variable {α : Type}

def keepRun (items : List α) : List (Run α) := if items.isEmpty then [] else [⟨.keep, items⟩]

def divideFrom [DecidableEq α] : Nat → List α → List α → List (Run α)
  | 0, old, new => [⟨.delete, old⟩, ⟨.insert, new⟩]
  | fuel + 1, old, new =>
      let head := commonPrefix old new
      let oldRest := old.drop head
      let newRest := new.drop head
      let tail := commonSuffix oldRest newRest
      let oldPart := oldRest.take (oldRest.length - tail)
      let newPart := newRest.take (newRest.length - tail)
      let between :=
        if oldPart.isEmpty && newPart.isEmpty then []
        else if oldPart.isEmpty then [⟨.insert, newPart⟩]
        else if newPart.isEmpty then [⟨.delete, oldPart⟩]
        else
          match (Grid.ofLists oldPart newPart).middle? with
          | none => [⟨.delete, oldPart⟩, ⟨.insert, newPart⟩]
          | some (column, row) =>
              divideFrom fuel (oldPart.take column) (newPart.take row) ++
                divideFrom fuel (oldPart.drop column) (newPart.drop row)
      keepRun (old.take head) ++ between ++ keepRun (oldRest.drop (oldRest.length - tail))

/-- A script that turns one list into another. -/
def divide [DecidableEq α] (old new : List α) : List (Run α) :=
  divideFrom (old.length + new.length + 1) old new

/-- A run that is moved, with the runs before it, the nearest first, and those after it. -/
structure Focus (α : Type) where
  before : List (Run α)
  run : Run α
  after : List (Run α)

namespace Focus

/-- Adds items that are kept in front of the runs after. -/
def keepAfter (items : List α) (after : List (Run α)) : List (Run α) :=
  match after with
  | ⟨.keep, others⟩ :: rest => ⟨.keep, items ++ others⟩ :: rest
  | _ => ⟨.keep, items⟩ :: after

/-- Adds items that are kept behind the runs before. -/
def keepBefore (items : List α) (before : List (Run α)) : List (Run α) :=
  match before with
  | ⟨.keep, others⟩ :: rest => ⟨.keep, others ++ items⟩ :: rest
  | _ => ⟨.keep, items⟩ :: before

/-- Moves the run up: past kept items that its own last items are equal to, and past runs of the
other kind; a run of its own kind is joined to it. -/
def up [DecidableEq α] : Nat → Focus α → Focus α
  | 0, f => f
  | fuel + 1, f =>
      match f.before with
      | [] => f
      | ⟨.keep, items⟩ :: rest =>
          let count := commonSuffix f.run.items items
          let left := items.take (items.length - count)
          let moved := items.drop (items.length - count)
          if count = 0 && !items.isEmpty then f
          else if count = 0 then up fuel { f with before := rest }
          else up fuel {
            before := if left.isEmpty then rest else ⟨.keep, left⟩ :: rest
            run := { f.run with items := moved ++ f.run.items.take (f.run.items.length - count) }
            after := keepAfter moved f.after }
      | other :: rest =>
          if other.change = f.run.change then
            up fuel { f with before := rest, run.items := other.items ++ f.run.items }
          else up fuel { f with before := rest, after := other :: f.after }

/-- Moves the run down, in the same way. -/
def down [DecidableEq α] : Nat → Focus α → Focus α
  | 0, f => f
  | fuel + 1, f =>
      match f.after with
      | [] => f
      | ⟨.keep, items⟩ :: rest =>
          let count := commonPrefix f.run.items items
          let left := items.drop count
          let moved := items.take count
          if count = 0 && !items.isEmpty then f
          else if count = 0 then down fuel { f with after := rest }
          else down fuel {
            before := keepBefore moved f.before
            run := { f.run with items := f.run.items.drop count ++ moved }
            after := if left.isEmpty then rest else ⟨.keep, left⟩ :: rest }
      | other :: rest =>
          if other.change = f.run.change then
            down fuel { f with after := rest, run.items := f.run.items ++ other.items }
          else down fuel { f with before := other :: f.before, after := rest }

/-- The number of runs and of their items. -/
def weight (runs : List (Run α)) : Nat :=
  runs.foldr (fun run rest => run.items.length + 1 + rest) 0

/-- Moves the run as far up and then as far down as it goes. -/
def settle [DecidableEq α] (f : Focus α) : Focus α :=
  let f := f.up (weight f.before)
  f.down (weight f.after)

end Focus

/-- Moves the runs of one kind that are left; `done` are the runs before them, the nearest first. -/
def compactFrom [DecidableEq α] (change : Change) : Nat → List (Run α) → List (Run α) →
    List (Run α)
  | 0, done, runs => done.reverse ++ runs
  | _, done, [] => done.reverse
  | fuel + 1, done, run :: rest =>
      if run.change = change then
        let f := Focus.settle ⟨done, run, rest⟩
        compactFrom change fuel (f.run :: f.before) f.after
      else compactFrom change fuel (run :: done) rest

def compact [DecidableEq α] (change : Change) (runs : List (Run α)) : List (Run α) :=
  compactFrom change (Focus.weight runs * Focus.weight runs) [] runs

/-- The edits of runs; between two runs that are kept deletions come before insertions. -/
def editsFrom (deleted inserted : List α) : List (Run α) → List (Edit α)
  | [] => Run.edits ⟨.delete, deleted⟩ ++ Run.edits ⟨.insert, inserted⟩
  | ⟨.delete, items⟩ :: rest => editsFrom (deleted ++ items) inserted rest
  | ⟨.insert, items⟩ :: rest => editsFrom deleted (inserted ++ items) rest
  | ⟨.keep, items⟩ :: rest =>
      Run.edits ⟨.delete, deleted⟩ ++ Run.edits ⟨.insert, inserted⟩ ++
        (Run.edits ⟨.keep, items⟩ ++ editsFrom [] [] rest)

/-- The edits that turn one list into another. -/
def script [DecidableEq α] (old new : List α) : List (Edit α) :=
  editsFrom [] [] (compact .insert (compact .delete (divide old new)))

end ShortcodeExpansion.Diff

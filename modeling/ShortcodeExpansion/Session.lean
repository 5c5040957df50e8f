import ShortcodeExpansion.Catalogue.Argument
import ShortcodeExpansion.Stack

/-!
# Sessions

A session works on named stacks, step by step.  A step makes, fills, empties, uses, copies or
compares one stack and leaves all others alone.
-/

set_option autoImplicit false

namespace ShortcodeExpansion.Session

/-- What a step does with its stack. -/
inductive Operation where
  | new
  /-- Makes a stack of shortcodes. -/
  | make (given : Argument)
  /-- Makes a stack of a catalogue. -/
  | makeFrom (catalogue : Catalogue)
  | add (given : Argument)
  | set (given : Argument)
  | flush
  | parse (text : String)
  /-- Makes a copy of another stack. -/
  | clone (source : String)
  /-- Compares the stack with another. -/
  | same (other : String)
deriving DecidableEq, Repr, Inhabited

/-- A step works on the stack of a name. -/
structure Step where
  name : String
  operation : Operation
deriving DecidableEq, Repr, Inhabited

/-- The stack that an operation leaves in the place of one, among others. -/
def Operation.result (named : String → Stack) (s : Stack) : Operation → Stack
  | .new => {}
  | .make given => Stack.ofShortcodes given.list
  | .makeFrom catalogue => Stack.ofCatalogue catalogue
  | .add given => s.add given.list
  | .set given => s.set given.list
  | .flush => s.flush
  | .parse text => s.afterExpand text
  | .clone source => named source
  | .same _ => s

/-- The stacks after a step. -/
def Step.apply (named : String → Stack) (step : Step) : String → Stack :=
  let after := step.operation.result named (named step.name)
  fun name => if name = step.name then after else named name

section Apply

variable (named : String → Stack) (step : Step)

theorem Step.apply_here :
    step.apply named step.name = step.operation.result named (named step.name) :=
  if_pos rfl

theorem Step.apply_elsewhere {name : String} (other : name ≠ step.name) :
    step.apply named name = named name :=
  if_neg other

end Apply

/-- The stacks after steps; at first every stack is empty. -/
def run (steps : List Step) : String → Stack := steps.foldl Step.apply fun _ => {}

end ShortcodeExpansion.Session

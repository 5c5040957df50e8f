import ShortcodeExpansion.Regex.Meaning
import ShortcodeExpansion.Regex.Reader
import ShortcodeExpansion.Regex.Search
import ShortcodeExpansion.Regex.Size

/-!
# Compiled patterns

A pattern is compiled by reading it, working out what it means, and checking that the automaton for
it stays within the size limit.
-/

set_option autoImplicit false

namespace ShortcodeExpansion

/-- A pattern that can be searched for. -/
structure Regex where
  expr : Regex.Expr
deriving DecidableEq, Repr

namespace Regex

/-- Why a pattern has no compiled form. -/
inductive BuildError where
  | invalid (pattern : String) (fault : Fault)
  | tooLarge (limit : Nat)
deriving DecidableEq, Repr

def BuildError.message : BuildError → String
  | .invalid pattern fault => fault.report pattern
  | .tooLarge limit => s!"Compiled regex exceeds size limit of {limit} bytes."

/-- The greatest size of a compiled pattern, in bytes: ten mebibytes. -/
def sizeLimit : Nat := 10 * 1024 * 1024

def readExpr (pattern : String) : Except Fault Expr := do
  let ast ← readPattern pattern
  let (expr, _) ← exprOf {} ast
  .ok expr

def compile (pattern : String) : Except BuildError Regex :=
  match readExpr pattern with
  | .error fault => .error (.invalid pattern fault)
  | .ok expr =>
      if expr.fits sizeLimit then .ok ⟨expr⟩ else .error (.tooLarge sizeLimit)

/-- The number of groups, the match itself not counted. -/
def groupCount (regex : Regex) : Nat := regex.expr.maxGroup

def groupIndex? (regex : Regex) (name : String) : Option Nat :=
  (regex.expr.groupNames.find? fun entry => entry.1 = name).map (·.2)

/-- The matches in a text, from left to right. -/
def matchesIn (regex : Regex) (text : List Char) : List Match := allMatches regex.expr text

end Regex

end ShortcodeExpansion

import ShortcodeExpansion.Catalogue.Loading
import ShortcodeExpansion.Stack

/-!
# Expanding a file

Applies the built-in shortcodes, and after them those of a shortcode file if one is given, to the
text in a file.
-/

set_option autoImplicit false

namespace ShortcodeExpansion

/-- Why a file cannot be expanded. -/
inductive ExpansionError where
  | catalogue (cause : LoadError)
  | input (cause : FileError)
  | rule (cause : RuleError)
deriving DecidableEq, Repr

def ExpansionError.message : ExpansionError → String
  | .catalogue cause => "Failed to load shortcodes: " ++ cause.chain.inline
  | .input cause => "Failed to read input: " ++ cause.message
  | .rule cause => cause.message

/-- The expansion of the text in a file.  The shortcode file comes first: if it cannot be used, it
does not matter whether the input can be read. -/
def expandFile (files : FileSystem) (catalogue : Option String) (input : String) :
    Except ExpansionError String := do
  let user ← match catalogue with
    | none => .ok none
    | some path => ((Catalogue.load files path).mapError .catalogue).map some
  let text ← (files.readText input).mapError .input
  ((Catalogue.builtIn.merge user).expand text).mapError .rule

end ShortcodeExpansion

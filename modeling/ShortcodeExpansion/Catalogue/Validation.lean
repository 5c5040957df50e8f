import ShortcodeExpansion.Catalogue.Basic
import ShortcodeExpansion.Regex.Compile
import ShortcodeExpansion.Template.Reference

/-!
# Validation of catalogues

A raw shortcode that is not blank needs a pattern that compiles, and its replacement may refer only
to groups that the pattern has.
-/

set_option autoImplicit false

namespace ShortcodeExpansion

/-- What is wrong with a raw shortcode. -/
inductive ShortcodeProblem where
  | badPattern (pattern : String) (cause : Regex.BuildError)
  | missingGroup (pattern : String) (index : Nat)
deriving DecidableEq, Repr

def ShortcodeProblem.message : ShortcodeProblem → String
  | .badPattern pattern cause =>
      "Shortcode '" ++ pattern ++ "' has an invalid regex pattern: " ++ cause.message
  | .missingGroup pattern index =>
      "Shortcode '" ++ pattern ++ "': replacement references non-existent capture group '$" ++
        toString index ++ "'."

/-- The problems of a shortcode, in the order in which they are reported. -/
def Shortcode.problems (s : Shortcode) : List ShortcodeProblem :=
  if !s.raw || s.isBlank then []
  else
    match Regex.compile s.pattern with
    | .error cause => [.badPattern s.pattern cause]
    | .ok regex =>
        ((Template.explicitReferences s.replacement).filter fun index =>
          regex.groupCount < index).map (.missingGroup s.pattern)

def Catalogue.problems (c : Catalogue) : List ShortcodeProblem :=
  c.shortcodes.flatMap Shortcode.problems

def validationReport (problems : List ShortcodeProblem) : String :=
  "Shortcode validation failed:\n" ++ "\n".intercalate (problems.map ShortcodeProblem.message)

end ShortcodeExpansion

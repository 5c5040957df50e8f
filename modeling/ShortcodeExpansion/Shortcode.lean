import ShortcodeExpansion.Text.Blank

/-!
# Shortcodes

A shortcode is a pattern with a replacement.  Both are templates with wildcards, or, if the
shortcode is raw, a regular expression and a text with references to its groups.
-/

set_option autoImplicit false

namespace ShortcodeExpansion

structure Shortcode where
  pattern : String := ""
  replacement : String := ""
  raw : Bool := false
deriving DecidableEq, Repr, Inhabited

/-- A shortcode without a pattern to speak of; it never makes a rule. -/
def Shortcode.isBlank (s : Shortcode) : Bool := isBlankText s.pattern

end ShortcodeExpansion

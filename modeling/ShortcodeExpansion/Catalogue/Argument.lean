import ShortcodeExpansion.Catalogue.Basic

/-!
# Arguments

The forms in which shortcodes can be given: none at all, one in any of its forms, several, or a
whole catalogue, owned or borrowed.  Every form comes down to a list of shortcodes.
-/

set_option autoImplicit false

namespace ShortcodeExpansion

inductive Argument where
  | none
  | pattern (pattern : String)
  | pair (pattern replacement : String)
  | triple (pattern replacement : String) (raw : Bool)
  | shortcode (shortcode : Shortcode)
  | shortcodes (list : List Shortcode)
  /-- Pairs of pattern and replacement, kept in the order given. -/
  | pairs (list : List (String × String))
  | mapping (pairs : Mapping)
  | entry (entry : Entry)
  | entries (list : List Entry)
  | catalogue (catalogue : Catalogue)
  | borrowedCatalogue (catalogue : Catalogue)
deriving DecidableEq, Repr, Inhabited

/-- The shortcodes that an argument stands for, in order. -/
def Argument.list : Argument → List Shortcode
  | .none => []
  | .pattern text => [{ pattern := text }]
  | .pair text replacement => [{ pattern := text, replacement }]
  | .triple text replacement raw => [{ pattern := text, replacement, raw }]
  | .shortcode s => [s]
  | .shortcodes given => given
  | .pairs given => given.map fun pair => { pattern := pair.1, replacement := pair.2 }
  | .mapping m => (Entry.mapping m).shortcodes
  | .entry e => e.shortcodes
  | .entries given => given.flatMap Entry.shortcodes
  | .catalogue c => c.entries.flatMap Entry.shortcodes
  | .borrowedCatalogue c => c.shortcodes

end ShortcodeExpansion

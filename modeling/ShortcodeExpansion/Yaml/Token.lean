/-!
# Tokens of a YAML text

The text is cut into tokens before its nodes are built.  Where a block begins or ends there is no
sign in the text, only a change of indentation; the tokens name these places too.
-/

set_option autoImplicit false

namespace ShortcodeExpansion.Yaml

inductive ScalarStyle where
  | plain
  | quoted
  | block
deriving DecidableEq, Repr

inductive Token where
  | streamEnd
  | version (major minor : Nat)
  /-- What a tag handle stands for. -/
  | handle (name uri : String)
  | documentStart
  | documentEnd
  | blockSequenceStart
  | blockMappingStart
  | blockEnd
  | flowSequenceStart
  | flowSequenceEnd
  | flowMappingStart
  | flowMappingEnd
  | blockEntry
  | flowEntry
  | key
  | value
  | alias (name : String)
  | anchor (name : String)
  | tag (handle suffix : String)
  | scalar (style : ScalarStyle) (text : String)
deriving DecidableEq, Repr

end ShortcodeExpansion.Yaml

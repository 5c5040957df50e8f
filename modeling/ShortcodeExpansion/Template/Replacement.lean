import ShortcodeExpansion.Template.Allocation
import ShortcodeExpansion.Template.Pattern

/-!
# Replacement templates

Each `*` of a replacement template becomes a reference to the next free group number.  The number is
put in braces where a digit follows, since a digit would otherwise extend it.  A raw template is
taken as it stands.
-/

set_option autoImplicit false

namespace ShortcodeExpansion.Template

/-- A reference to a numbered group, in front of `rest`. -/
def referenceBefore (index : Nat) (rest : List Char) : List Char :=
  let digits := (toString index).toList
  if (rest.head?.map isAsciiDigit).getD false then '$' :: '\x7b' :: digits ++ ['\x7d']
  else '$' :: digits

/-- Replaces wildcards by references, with the numbers of an allocation in order. -/
def numberWildcards (a : Allocation) : List Char → List Char
  | [] => []
  | c :: rest =>
      if c = wildcard then referenceBefore a.next rest ++ numberWildcards a.advance rest
      else c :: numberWildcards a rest

def replacementSource (template : String) (raw : Bool) : String :=
  if raw then template
  else String.ofList (numberWildcards (.ofTemplate template) template.toList)

end ShortcodeExpansion.Template

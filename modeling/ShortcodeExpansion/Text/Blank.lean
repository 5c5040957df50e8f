import ShortcodeExpansion.Text.CharSet

/-!
# Blank characters

The characters with the White_Space property, and the test for a text that holds nothing else.
-/

set_option autoImplicit false

namespace ShortcodeExpansion

/-- The characters with the White_Space property. -/
def blankSet : CharSet :=
  ⟨[⟨0x9, 0xD⟩, ⟨0x20, 0x20⟩, ⟨0x85, 0x85⟩, ⟨0xA0, 0xA0⟩, ⟨0x1680, 0x1680⟩, ⟨0x2000, 0x200A⟩,
    ⟨0x2028, 0x2029⟩, ⟨0x202F, 0x202F⟩, ⟨0x205F, 0x205F⟩, ⟨0x3000, 0x3000⟩]⟩

def isBlankChar (c : Char) : Bool := blankSet.contains c

/-- Whether a text is empty or holds blank characters only. -/
def isBlankText (text : String) : Bool := text.toList.all isBlankChar

end ShortcodeExpansion

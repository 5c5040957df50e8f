import ShortcodeExpansion.Text.Category
import ShortcodeExpansion.Text.Property

/-!
# Quoted texts

A text in double quotes, with an escape for every character that could not be read in print: control
and format characters, separators other than the space, unassigned and private characters, and marks
that would join the character before them.
-/

set_option autoImplicit false

namespace ShortcodeExpansion

def categoryUnion (names : List String) : CharSet :=
  .ofRanges (names.flatMap fun name => ((categorySet? name).getD .empty).ranges)

/-- The characters that are written by number. -/
def unprintableSet : CharSet :=
  ((categoryUnion ["cc", "cf", "co", "cn", "zl", "zp", "zs"]).union
    ((propertySet? "grext").getD .empty)).diff (.singleton ' ')

def isPrintable (c : Char) : Bool :=
  if c.toNat < 0x7F then 0x20 ≤ c.toNat else !unprintableSet.contains c

def hexText (n : Nat) : List Char := Nat.toDigits 16 n

/-- A character inside double quotes. -/
def quotedChar (c : Char) : List Char :=
  if c = '\x00' then ['\\', '0']
  else if c = '\t' then ['\\', 't']
  else if c = '\r' then ['\\', 'r']
  else if c = '\n' then ['\\', 'n']
  else if c = '"' then ['\\', '"']
  else if c = '\\' then ['\\', '\\']
  else if isPrintable c then [c]
  else ['\\', 'u', '\x7b'] ++ hexText c.toNat ++ ['\x7d']

def quotedText (text : String) : String :=
  String.ofList ('"' :: text.toList.flatMap quotedChar ++ ['"'])

end ShortcodeExpansion

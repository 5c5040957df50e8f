import ShortcodeExpansion.Yaml.Cursor

/-!
# Anchors and tags

An anchor gives a node a name, by which an alias refers to it.  A tag says what kind of thing a node
is; it is a URI, written in full or as a handle and a suffix.
-/

set_option autoImplicit false

namespace ShortcodeExpansion.Yaml

/-- The name of an anchor or an alias. -/
def readName (c : Cursor) : Option (String × Cursor) :=
  let (name, c) := c.takeWhile isNameChar
  if name.isEmpty then none
  else if c.gapAt 0 || c.isAt 0 (· ∈ "?:,]\x7d%@`".toList) then some (String.ofList name, c)
  else none

/-- How many octets the encoding of a character has, by the first of them. -/
def octetCount? (first : Nat) : Option Nat :=
  if first < 0x80 then some 1
  else if first < 0xC0 then none
  else if first < 0xE0 then some 2
  else if first < 0xF0 then some 3
  else if first < 0xF8 then some 4
  else none

/-- An octet of a URI, written as a percent sign and two digits. -/
def readOctet (c : Cursor) : Option (Nat × Cursor) :=
  match c.rest with
  | '%' :: high :: low :: _ => (hexNumber? [high, low]).map fun octet => (octet, c.advance 3)
  | _ => none

/-- Octets that go on with a character's encoding. -/
def readMoreOctets : Nat → Nat → Cursor → Option (Nat × Cursor)
  | 0, code, c => some (code, c)
  | count + 1, code, c =>
      match readOctet c with
      | some (octet, next) =>
          if octet / 0x40 = 2 then readMoreOctets count (0x40 * code + octet % 0x40) next else none
      | none => none

/-- A character of a URI that is written as its octets. -/
def readEscapedChar (c : Cursor) : Option (Char × Cursor) := do
  let (first, c) ← readOctet c
  let count ← octetCount? first
  let lead := if count = 1 then first else first % Nat.pow 2 (7 - count)
  let (code, c) ← readMoreOctets (count - 1) lead c
  some (Char.ofNat code, c)

/-- The characters of a URI; flow signs count among them only where nothing else could be meant. -/
def isUriChar (withFlowSigns : Bool) (c : Char) : Bool :=
  isNameChar c || c ∈ ";/?:@&=+$.%!~*'()".toList || withFlowSigns && c ∈ ",[]".toList

def readUriChars (withFlowSigns : Bool) : Nat → List Char → Cursor → Option (List Char × Cursor)
  | 0, uri, c => some (uri.reverse, c)
  | fuel + 1, uri, c =>
      match c.char? with
      | none => some (uri.reverse, c)
      | some char =>
          if !isUriChar withFlowSigns char then some (uri.reverse, c)
          else if char = '%' then
            match readEscapedChar c with
            | some (char, next) => readUriChars withFlowSigns fuel (char :: uri) next
            | none => none
          else readUriChars withFlowSigns fuel (char :: uri) c.skip

def readUri (withFlowSigns : Bool) (c : Cursor) : Option (String × Cursor) := do
  let (uri, c) ← readUriChars withFlowSigns c.rest.length [] c
  some (String.ofList uri, c)

def readFullUri (withFlowSigns : Bool) (c : Cursor) : Option (String × Cursor) := do
  let (uri, c) ← readUri withFlowSigns c
  if uri.isEmpty then none else some (uri, c)

/-- An exclamation mark with the name after it; another mark closes the name. -/
structure Handle where
  name : String
  closed : Bool
deriving DecidableEq, Repr

def Handle.text (handle : Handle) : String :=
  "!" ++ handle.name ++ if handle.closed then "!" else ""

def readHandle (c : Cursor) : Option (Handle × Cursor) :=
  if !c.isNext '!' then none
  else
    let (name, c) := c.skip.takeWhile isNameChar
    let closed := c.isNext '!'
    some (⟨String.ofList name, closed⟩, if closed then c.skip else c)

/-- A tag as its handle and its suffix.  A tag in angles has no handle, and neither has a lone
exclamation mark. -/
def readTagParts (c : Cursor) : Option (String × String × Cursor) := do
  if c.isAt 1 (· = '<') then
    let (uri, c) ← readFullUri true (c.advance 2)
    if c.isNext '>' then some ("", uri, c.skip) else none
  else
    let (handle, c) ← readHandle c
    if handle.closed then
      let (suffix, c) ← readFullUri false c
      some (handle.text, suffix, c)
    else
      let (more, c) ← readUri false c
      let suffix := handle.name ++ more
      if suffix.isEmpty then some ("", "!", c) else some ("!", suffix, c)

/-- A tag, with a gap after it, or in a flow collection a comma. -/
def readTag (inFlow : Bool) (c : Cursor) : Option (String × String × Cursor) := do
  let (handle, suffix, c) ← readTagParts c
  if c.gapAt 0 || inFlow && c.isNext ',' then some (handle, suffix, c) else none

end ShortcodeExpansion.Yaml

import ShortcodeExpansion.Yaml.Property
import ShortcodeExpansion.Yaml.Token

/-!
# Directives

Before a document may stand directives, each on a line of its own.  One names the version of the
language, another says what a tag handle stands for.
-/

set_option autoImplicit false

namespace ShortcodeExpansion.Yaml

/-- A number of at most nine digits. -/
def readVersionNumber (c : Cursor) : Option (Nat × Cursor) :=
  let (digits, c) := c.takeWhile Char.isDigit
  if digits.isEmpty || 9 < digits.length then none
  else some (digits.foldl (fun n d => 10 * n + (d.toNat - '0'.toNat)) 0, c)

/-- Two numbers with a point between them. -/
def readVersion (c : Cursor) : Option (Token × Cursor) := do
  let (major, c) ← readVersionNumber (c.skipWhile isSpacing)
  if !c.isNext '.' then none
  else
    let (minor, c) ← readVersionNumber c.skip
    some (.version major minor, c)

/-- A handle and what it stands for.  The handle is a lone exclamation mark or closed by one. -/
def readHandleMeaning (c : Cursor) : Option (Token × Cursor) := do
  let (handle, c) ← readHandle (c.skipWhile isSpacing)
  if !handle.closed && !handle.name.isEmpty || !c.isAt 0 isSpacing then none
  else
    let (uri, c) ← readFullUri true (c.skipWhile isSpacing)
    if c.gapAt 0 then some (.handle handle.text uri, c) else none

/-- The directive whose percent sign was read. -/
def readDirective (c : Cursor) : Option (Token × Cursor) := do
  let (name, c) := c.takeWhile isNameChar
  if !c.gapAt 0 then none
  else
    let (token, c) ← match String.ofList name with
      | "YAML" => readVersion c
      | "TAG" => readHandleMeaning c
      | _ => none
    let c ← c.endLine?
    some (token, c)

end ShortcodeExpansion.Yaml

import ShortcodeExpansion.Text.DecimalDigit

/-!
# Explicit references

The numbered references that a replacement template writes out itself: a dollar sign followed by one
or two decimal digits, bare or in braces.  The scan takes the decimal digits of every script, and a
reference counts only if its digits form a numeral.
-/

set_option autoImplicit false

namespace ShortcodeExpansion.Template

/-- The first one or two decimal digits of a text. -/
def leadingDigits (text : List Char) : List Char := (text.take 2).takeWhile isDecimalDigit

/-- The digits of the reference that a text holds after a dollar sign, and how many characters the
reference takes. -/
def referenceAfterDollar? (text : List Char) : Option (List Char × Nat) :=
  match leadingDigits text with
  | digit :: more => some (digit :: more, (digit :: more).length)
  | [] =>
      match text with
      | '\x7b' :: inner =>
          let digits := leadingDigits inner
          if digits.isEmpty then none
          else if (inner.drop digits.length).head? = some '\x7d' then
            some (digits, digits.length + 2)
          else none
      | _ => none

/-- Reads the references of a text from left to right, without overlap; the first `skip` characters
belong to a reference already read. -/
def referencesFrom (skip : Nat) : List Char → List Nat
  | [] => []
  | c :: rest =>
      match skip with
      | skipped + 1 => referencesFrom skipped rest
      | 0 =>
          if c = '$' then
            match referenceAfterDollar? rest with
            | some (digits, length) =>
                match readNumeral? digits with
                | some index => index :: referencesFrom length rest
                | none => referencesFrom length rest
            | none => referencesFrom 0 rest
          else referencesFrom 0 rest

/-- The numbers that a replacement template refers to, in order of appearance. -/
def explicitReferences (template : String) : List Nat := referencesFrom 0 template.toList

end ShortcodeExpansion.Template

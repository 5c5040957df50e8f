import ShortcodeExpansion.Text.DecimalDigit

/-!
# Expansion of replacements

A replacement is first rewritten into an expansion, in which every reference is in braces and every
literal dollar sign is doubled: one or two digits after a dollar sign or a backslash are a
reference, a name in braces after a dollar sign is one, and nothing else is.  The expansion is then
read as a row of pieces, each a character, a group number or a group name, and the pieces are filled
in from the groups of a match.
-/

set_option autoImplicit false

namespace ShortcodeExpansion.Template

/-- The first one or two ASCII digits of a text. -/
def leadingAsciiDigits (text : List Char) : List Char := (text.take 2).takeWhile isAsciiDigit

/-- The characters of a group name in a replacement: ASCII letters, digits and the underscore. -/
def isNameChar (c : Char) : Bool := c.isAlphanum || c = '_'

/-- The name in a text of the form `{name}`, followed by anything. -/
def bracedName? (text : List Char) : Option (List Char) :=
  match text with
  | '\x7b' :: inner =>
      let name := inner.takeWhile (· ≠ '\x7d')
      if name.length < inner.length && !name.isEmpty && name.all isNameChar then some name else none
  | _ => none

/-- Writes a name in braces after a dollar sign. -/
def bracedReference (name : List Char) : List Char := '$' :: '\x7b' :: name ++ ['\x7d']

/-- Rewrites a replacement; the first `skip` characters belong to a reference already written. -/
def expansionFrom (skip : Nat) : List Char → List Char
  | [] => []
  | c :: rest =>
      match skip with
      | skipped + 1 => expansionFrom skipped rest
      | 0 =>
          if c = '$' || c = '\\' then
            let digits := leadingAsciiDigits rest
            if !digits.isEmpty then bracedReference digits ++ expansionFrom digits.length rest
            else if c = '\\' then '\\' :: expansionFrom 0 rest
            else
              match bracedName? rest with
              | some name => bracedReference name ++ expansionFrom (name.length + 2) rest
              | none => '$' :: '$' :: expansionFrom 0 rest
          else c :: expansionFrom 0 rest

def expansion (replacement : String) : String :=
  String.ofList (expansionFrom 0 replacement.toList)

inductive Piece where
  | char (c : Char)
  | numbered (index : Nat)
  | named (name : String)
deriving DecidableEq, Repr

/-- The number that a group's name spells; a plus sign may stand in front of it. -/
def groupNumber? (name : List Char) : Option Nat :=
  match name with
  | '+' :: digits => readNumeral? digits
  | digits => readNumeral? digits

/-- A reference by its written name: a numeral is a group number. -/
def Piece.ofName (name : List Char) : Piece :=
  match groupNumber? name with
  | some index => .numbered index
  | none => .named (String.ofList name)

/-- The reference that a text holds after a dollar sign, and how many characters it takes. -/
def capture? (text : List Char) : Option (Piece × Nat) :=
  match text with
  | '\x7b' :: inner =>
      let name := inner.takeWhile (· ≠ '\x7d')
      if name.length < inner.length then some (.ofName name, name.length + 2) else none
  | _ =>
      let name := text.takeWhile isNameChar
      if name.isEmpty then none else some (.ofName name, name.length)

/-- Reads the pieces of an expansion; the first `skip` characters are already read. -/
def piecesFrom (skip : Nat) : List Char → List Piece
  | [] => []
  | c :: rest =>
      match skip with
      | skipped + 1 => piecesFrom skipped rest
      | 0 =>
          if c = '$' then
            if rest.head? = some '$' then .char '$' :: piecesFrom 1 rest
            else
              match capture? rest with
              | some (piece, length) => piece :: piecesFrom length rest
              | none => .char '$' :: piecesFrom 0 rest
          else .char c :: piecesFrom 0 rest

def expansionPieces (expansion : String) : List Piece := piecesFrom 0 expansion.toList

/-- The texts of a match's groups, by number and by name; a group that took no part is empty. -/
structure GroupTexts where
  numbered : Nat → List Char
  named : String → List Char

def Piece.fill (groups : GroupTexts) : Piece → List Char
  | .char c => [c]
  | .numbered index => groups.numbered index
  | .named name => groups.named name

/-- Pieces with their references filled in. -/
def fillPieces (groups : GroupTexts) (pieces : List Piece) : List Char :=
  pieces.flatMap (·.fill groups)

end ShortcodeExpansion.Template

import ShortcodeExpansion.Text.CharSet

/-!
# Tables of characters

A table is a text of words.  A word that starts with a colon is a name, and the names in front of a
row of ranges all belong to it; a range is a code point in hexadecimal, or two joined by a hyphen.
-/

set_option autoImplicit false

namespace ShortcodeExpansion

/-- The value of a hexadecimal digit written with a capital letter; zero for any other character. -/
def upperHexValue (c : Char) : Nat :=
  if '0' ≤ c && c ≤ '9' then c.toNat - '0'.toNat
  else if 'A' ≤ c && c ≤ 'F' then c.toNat - 'A'.toNat + 10
  else 0

inductive TableWord where
  | name (name : List Char)
  | codes (codes : List Nat)
deriving DecidableEq, Repr

/-- The code points of a word, read after `code`. -/
def readCodes (code : Nat) : List Char → List Nat
  | [] => [code]
  | c :: rest =>
      if c = '-' then code :: readCodes 0 rest
      else readCodes (code * 16 + upperHexValue c) rest

def TableWord.ofChars : List Char → TableWord
  | ':' :: letters => .name letters
  | digits => .codes (readCodes 0 digits)

/-- Splits a text at blanks and line feeds; `word` is the word being read, last character first, and
`done` holds the words before it, last first. -/
def splitWords (done : List (List Char)) (word : List Char) : List Char → List (List Char)
  | [] => (if word.isEmpty then done else word.reverse :: done).reverse
  | c :: rest =>
      if c = ' ' || c = '\n' then
        splitWords (if word.isEmpty then done else word.reverse :: done) [] rest
      else splitWords done (c :: word) rest

def tableWords (table : String) : List TableWord :=
  (splitWords [] [] table.toList).map TableWord.ofChars

/-- The range that a word's code points span. -/
def rangeOfCodes : List Nat → List CodeRange
  | [code] => [⟨code, code⟩]
  | [first, last] => [⟨first, last⟩]
  | _ => []

def takeRanges : List TableWord → List CodeRange
  | .codes codes :: rest => rangeOfCodes codes ++ takeRanges rest
  | _ => []

/-- The words from the first range after a name on. -/
def dropNames : List TableWord → List TableWord
  | .name _ :: rest => dropNames rest
  | words => words

def findRanges? (name : List Char) : List TableWord → Option (List CodeRange)
  | [] => none
  | .name found :: rest =>
      if found = name then some (takeRanges (dropNames rest)) else findRanges? name rest
  | .codes _ :: rest => findRanges? name rest

def tableRanges? (table : String) (name : String) : Option (List CodeRange) :=
  findRanges? name.toList (tableWords table)

/-- The ranges of a table without names. -/
def readRanges (table : String) : List CodeRange := takeRanges (tableWords table)

/-- The code points of each word of a table without names. -/
def readFamilies (table : String) : List (List Nat) :=
  (tableWords table).filterMap fun word =>
    match word with
    | .codes codes => some codes
    | .name _ => none

end ShortcodeExpansion

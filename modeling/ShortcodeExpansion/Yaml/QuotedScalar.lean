import ShortcodeExpansion.Yaml.Gap

/-!
# Quoted scalars

In single quotes only the quote itself is special, and is written twice.  In double quotes a
backslash starts an escape; before a line break it takes the break away.
-/

set_option autoImplicit false

namespace ShortcodeExpansion.Yaml

inductive Quote where
  | single
  | double
deriving DecidableEq, Repr

def Quote.char : Quote → Char
  | .single => '\''
  | .double => '"'

def shortEscape? : Char → Option Char
  | '0' => some '\x00'
  | 'a' => some '\x07'
  | 'b' => some '\x08'
  | 't' | '\t' => some '\t'
  | 'n' => some '\n'
  | 'v' => some '\x0b'
  | 'f' => some '\x0c'
  | 'r' => some '\r'
  | 'e' => some '\x1b'
  | ' ' => some ' '
  | '"' => some '"'
  | '/' => some '/'
  | '\\' => some '\\'
  | 'N' => some '\u0085'
  | '_' => some '\u00a0'
  | 'L' => some '\u2028'
  | 'P' => some '\u2029'
  | _ => none

/-- How many hexadecimal digits follow an escape's letter. -/
def escapeDigits? : Char → Option Nat
  | 'x' => some 2
  | 'u' => some 4
  | 'U' => some 8
  | _ => none

/-- The character of the escape whose letter comes next, and the place after it. -/
def readEscape (c : Cursor) : Option (Char × Cursor) := do
  let letter ← c.char?
  match escapeDigits? letter with
  | none => (shortEscape? letter).map fun char => (char, c.skip)
  | some count =>
      let digits := (c.rest.drop 1).take count
      if digits.length < count then none
      else
        let code ← hexNumber? digits
        let char ← charOfCode? code
        some (char, c.advance (count + 1))

/-- How the reading of a word ended. -/
structure QuotedWord where
  /-- All of the scalar so far, last character first. -/
  text : List Char
  /-- Whether the word ended with an escaped line break. -/
  brokeLine : Bool := false
  after : Cursor

def readQuotedWord (quote : Quote) : Nat → List Char → Cursor → Option QuotedWord
  | 0, text, c => some { text, after := c }
  | fuel + 1, text, c =>
      match c.char? with
      | none => some { text, after := c }
      | some char =>
          if isGap char then some { text, after := c }
          else if quote = .single && char = '\'' && c.isAt 1 (· = '\'') then
            readQuotedWord quote fuel ('\'' :: text) (c.advance 2)
          else if char = quote.char then some { text, after := c }
          else if quote = .double && char = '\\' then
            match c.skip.takeBreak? with
            | some (_, next) => some { text, brokeLine := true, after := next }
            | none =>
                match readEscape c.skip with
                | none => none
                | some (escaped, next) => readQuotedWord quote fuel (escaped :: text) next
          else readQuotedWord quote fuel (char :: text) c.skip

/-- Adds words and gaps to the scalar, up to the quote that closes it.  As each round takes a
character, what is left of the fuel will do for a word. -/
def readQuotedText (quote : Quote) : Nat → List Char → Cursor → Option (List Char × Cursor)
  | 0, _, _ => none
  | fuel + 1, text, c => do
      if c.atBoundary || c.atEnd then none
      else
        let word ← readQuotedWord quote (fuel + 1) text c
        if word.after.isNext quote.char then some (word.text.reverse, word.after.skip)
        else
          let start := if word.brokeLine then Gap.breaks none [] else .blanks []
          let (gap, next) ← start.read 0 word.after
          readQuotedText quote fuel (gap.folded.reverse ++ word.text) next

/-- The scalar whose opening quote was read. -/
def readQuoted (quote : Quote) (c : Cursor) : Option (String × Cursor) := do
  let (text, c) ← readQuotedText quote (c.rest.length + 1) [] c
  some (String.ofList text, c)

end ShortcodeExpansion.Yaml

import ShortcodeExpansion.Regex.Cursor
import ShortcodeExpansion.Regex.Syntax

/-!
# Escapes

What a backslash introduces: a character by name or by number, a class, an assertion, or nothing
that is allowed.
-/

set_option autoImplicit false

namespace ShortcodeExpansion.Regex

open Cursor (fail)

/-- The characters with a meaning of their own in a pattern. -/
def isMeta (c : Char) : Bool :=
  c ∈ ['\\', '.', '+', '*', '?', '(', ')', '|', '[', ']', '\x7b', '\x7d', '^', '$', '#', '&', '-',
    '~']

/-- The characters that may follow a backslash to stand for themselves, though they need none. -/
def isEscapable (c : Char) : Bool :=
  c.toNat < 0x80 && !c.isAlphanum && c ≠ '<' && c ≠ '>'

def hexDigit? (c : Char) : Option Nat :=
  if '0' ≤ c && c ≤ '9' then some (c.toNat - '0'.toNat)
  else if 'a' ≤ c && c ≤ 'f' then some (c.toNat - 'a'.toNat + 10)
  else if 'A' ≤ c && c ≤ 'F' then some (c.toNat - 'A'.toNat + 10)
  else none

def scalar? (code : Nat) : Option Char :=
  if h : code.isValidChar then some (Char.ofNatAux code h) else none

/-- Reads exactly `count` further hexadecimal digits; `value` is that of the digits before. -/
def readHexDigits (value : Nat) (c : Cursor) : Nat → Except Fault (Nat × Cursor)
  | 0 => .ok (value, c)
  | count + 1 =>
      match c.rest with
      | [] => fail (.point c.pos) .escapeUnexpectedEnd
      | char :: _ =>
          match hexDigit? char with
          | some digit => readHexDigits (value * 16 + digit) c.advance count
          | none => fail c.charSpan .escapeHexInvalidDigit

/-- Reads hexadecimal digits up to a closing brace; the cursor stands on the opening brace or on the
last digit read. -/
def readHexBrace (digits : List Nat) (c : Cursor) : Nat → Except Fault (List Nat × Cursor)
  | 0 => .ok (digits, c.advance)
  | fuel + 1 =>
      let c := c.advance
      match c.rest with
      | [] => .ok (digits, c)
      | char :: _ =>
          if char = '\x7d' then .ok (digits, c)
          else
            match hexDigit? char with
            | some digit => readHexBrace (digits ++ [digit]) c fuel
            | none => fail c.charSpan .escapeHexInvalidDigit

/-- A character by its code; the cursor stands on `x`, `u` or `U`, and `start` is the place of the
backslash. -/
def readHex (start : Position) (letter : Char) (c : Cursor) : Except Fault (Primitive × Cursor) :=
  let c := c.advance
  match c.rest with
  | [] => fail (.point c.pos) .escapeUnexpectedEnd
  | '\x7b' :: _ => do
      let bracePos := c.pos
      let digitsStart := c.charSpan.stop
      let (digits, c) ← readHexBrace [] c c.rest.length
      if c.isEnd then fail ⟨bracePos, c.pos⟩ .escapeUnexpectedEnd
      else
        let stop := c.pos
        let c := c.advance
        if digits.isEmpty then fail ⟨bracePos, c.pos⟩ .escapeHexEmpty
        else
          match scalar? (digits.foldl (fun value digit => value * 16 + digit) 0) with
          | none => fail ⟨digitsStart, stop⟩ .escapeHexInvalid
          | some char => .ok (.literal ⟨⟨start, c.pos⟩, char, false⟩, c)
  | _ => do
      let digitsStart := c.pos
      let count := if letter = 'x' then 2 else if letter = 'u' then 4 else 8
      let (value, c) ← readHexDigits 0 c count
      match scalar? value with
      | none => fail ⟨digitsStart, c.pos⟩ .escapeHexInvalid
      | some char => .ok (.literal ⟨⟨start, c.pos⟩, char, letter = 'x'⟩, c)

/-- Reads the name of a property up to a closing brace; the cursor stands on the opening brace or on
the last character read. -/
def readPropertyName (name : List Char) (c : Cursor) : Nat → List Char × Cursor
  | 0 => (name.reverse, c.advance)
  | fuel + 1 =>
      let c := c.advance
      match c.rest with
      | [] => (name.reverse, c)
      | char :: _ =>
          if char = '\x7d' then (name.reverse, c) else readPropertyName (char :: name) c fuel

/-- The text before the first place where a separator stands, and the text after the separator. -/
def splitAtFirst? (separator : List Char) (before : List Char) :
    List Char → Option (List Char × List Char)
  | [] => none
  | c :: rest =>
      if (c :: rest).take separator.length = separator then
        some (before.reverse, (c :: rest).drop separator.length)
      else splitAtFirst? separator (c :: before) rest

/-- What a name in braces asks for: a property, or a value of a property. -/
def PropertyQuery.ofName (name : List Char) : PropertyQuery :=
  let split :=
    ((splitAtFirst? ['!', '='] [] name).or (splitAtFirst? [':'] [] name)).or
      (splitAtFirst? ['='] [] name)
  match split with
  | some (property, value) => .valued (String.ofList property) (String.ofList value)
  | none => .named (String.ofList name)

/-- A class by property; the cursor stands on `p` or `P`. -/
def readProperty (start : Position) (negated : Bool) (c : Cursor) :
    Except Fault (Primitive × Cursor) :=
  let c := c.advance
  match c.rest with
  | [] => fail (.point c.pos) .escapeUnexpectedEnd
  | char :: _ =>
      if char = '\x7b' then
        let (name, c) := readPropertyName [] c c.rest.length
        if c.isEnd then fail (.point c.pos) .escapeUnexpectedEnd
        else
          let c := c.bump
          .ok (.property ⟨⟨start, c.pos⟩, .ofName name, negated⟩, c)
      else if char = '\\' then fail c.charSpan .propertyInvalid
      else
        let c := c.advance
        .ok (.property ⟨⟨start, c.pos⟩, .letter char, negated⟩, c)

def isBoundaryNameChar (c : Char) : Bool := c.isAlpha || c = '-'

/-- Reads the letters and hyphens of a boundary's name. -/
def readBoundaryName (name : List Char) (c : Cursor) : Nat → List Char × Cursor
  | 0 => (name.reverse, c)
  | fuel + 1 =>
      match c.rest with
      | [] => (name.reverse, c)
      | char :: _ =>
          if isBoundaryNameChar char then readBoundaryName (char :: name) c.advance fuel
          else (name.reverse, c)

def boundaryOfName? (name : List Char) : Option AssertionKind :=
  if name = "start".toList then some .wordStart
  else if name = "end".toList then some .wordEnd
  else if name = "start-half".toList then some .wordStartHalf
  else if name = "end-half".toList then some .wordEndHalf
  else none

/-- The assertion that `\b` begins.  A brace after it may name a special boundary; if it cannot, it
is left for a counted repetition. -/
def readWordBoundary (start : Position) (c : Cursor) : Except Fault (Primitive × Cursor) :=
  let plain := (Primitive.assertion ⟨start, c.pos⟩ .wordBoundary, c)
  if !c.at? '\x7b' then .ok plain
  else
    let bracePos := c.pos
    let inner := c.advance
    match inner.rest with
    | [] => fail ⟨start, inner.pos⟩ .wordBoundaryUnexpectedEnd
    | char :: _ =>
        if !isBoundaryNameChar char then .ok plain
        else
          let (name, after) := readBoundaryName [] inner inner.rest.length
          if !after.at? '\x7d' then fail ⟨bracePos, after.pos⟩ .wordBoundaryUnclosed
          else
            match boundaryOfName? name with
            | none => fail ⟨inner.pos, after.pos⟩ .wordBoundaryUnrecognized
            | some kind =>
                let c := after.bump
                .ok (.assertion ⟨start, c.pos⟩ kind, c)

/-- The character that a letter after a backslash stands for. -/
def namedControl? : Char → Option Char
  | 'a' => some '\x07'
  | 'f' => some '\x0c'
  | 't' => some '\t'
  | 'n' => some '\n'
  | 'r' => some '\r'
  | 'v' => some '\x0b'
  | _ => none

def shorthand? : Char → Option (ShorthandKind × Bool)
  | 'd' => some (.digit, false)
  | 'D' => some (.digit, true)
  | 's' => some (.space, false)
  | 'S' => some (.space, true)
  | 'w' => some (.word, false)
  | 'W' => some (.word, true)
  | _ => none

/-- The assertions that are one letter or sign after a backslash. -/
def letterAssertion? : Char → Option AssertionKind
  | 'A' => some .startText
  | 'z' => some .endText
  | 'B' => some .notWordBoundary
  | '<' => some .wordStart
  | '>' => some .wordEnd
  | _ => none

/-- What a backslash introduces; the cursor stands on the backslash. -/
def readEscape (c : Cursor) : Except Fault (Primitive × Cursor) :=
  let start := c.pos
  let c := c.bump
  match c.rest with
  | [] => fail ⟨start, c.pos⟩ .escapeUnexpectedEnd
  | char :: _ =>
      if char.isDigit then fail ⟨start, c.charSpan.stop⟩ .backreference
      else if char = 'x' || char = 'u' || char = 'U' then readHex start char c
      else if char = 'p' || char = 'P' then readProperty start (char = 'P') c
      else
        let c := c.bump
        let span : Span := ⟨start, c.pos⟩
        match shorthand? char with
        | some (kind, negated) => .ok (.shorthand ⟨span, kind, negated⟩, c)
        | none =>
            if isMeta char || isEscapable char then .ok (.literal ⟨span, char, false⟩, c)
            else if char = 'b' then readWordBoundary start c
            else
              match namedControl? char, letterAssertion? char with
              | some control, _ => .ok (.literal ⟨span, control, false⟩, c)
              | none, some kind => .ok (.assertion span kind, c)
              | none, none => fail span .escapeUnrecognized

end ShortcodeExpansion.Regex

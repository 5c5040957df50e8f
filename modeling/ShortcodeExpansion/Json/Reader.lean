import ShortcodeExpansion.Json.Basic

/-!
# Reading JSON

A reader takes the characters that are left and returns a value with the characters after it, or
nothing if the text is not JSON.  Nesting is bounded by the number of characters, which serves as
the fuel of the recursion.
-/

set_option autoImplicit false

namespace ShortcodeExpansion.Json

def isSpace (c : Char) : Bool := c = ' ' || c = '\n' || c = '\t' || c = '\r'

def skipSpace (text : List Char) : List Char := text.dropWhile isSpace

/-- The value of a hexadecimal digit. -/
def hexValue? (c : Char) : Option Nat :=
  if '0' ≤ c && c ≤ '9' then some (c.toNat - '0'.toNat)
  else if 'a' ≤ c && c ≤ 'f' then some (c.toNat - 'a'.toNat + 10)
  else if 'A' ≤ c && c ≤ 'F' then some (c.toNat - 'A'.toNat + 10)
  else none

/-- Four hexadecimal digits. -/
def readUnit? : List Char → Option (Nat × List Char)
  | a :: b :: c :: d :: rest =>
      match hexValue? a, hexValue? b, hexValue? c, hexValue? d with
      | some a, some b, some c, some d => some (((a * 16 + b) * 16 + c) * 16 + d, rest)
      | _, _, _, _ => none
  | _ => none

/-- The character after `\u`; a high surrogate takes the low surrogate that follows. -/
def readUnicodeEscape? (text : List Char) : Option (Char × List Char) :=
  match readUnit? text with
  | none => none
  | some (unit, rest) =>
      if 0xD800 ≤ unit && unit ≤ 0xDBFF then
        match rest with
        | '\\' :: 'u' :: more =>
            match readUnit? more with
            | some (low, after) =>
                if 0xDC00 ≤ low && low ≤ 0xDFFF then
                  some (Char.ofNat (0x10000 + (unit - 0xD800) * 0x400 + (low - 0xDC00)), after)
                else none
            | none => none
        | _ => none
      else if 0xDC00 ≤ unit && unit ≤ 0xDFFF then none
      else some (Char.ofNat unit, rest)

/-- The character that a one-letter escape stands for. -/
def simpleEscape? : Char → Option Char
  | '"' => some '"'
  | '\\' => some '\\'
  | '/' => some '/'
  | 'b' => some '\x08'
  | 'f' => some '\x0c'
  | 'n' => some '\n'
  | 'r' => some '\r'
  | 't' => some '\t'
  | _ => none

/-- The rest of a string after its opening quote; `taken` holds the characters read, last first. -/
def readString? (fuel : Nat) (taken : List Char) (text : List Char) :
    Option (String × List Char) :=
  match fuel, text with
  | 0, _ => none
  | _, [] => none
  | _, '"' :: rest => some (String.ofList taken.reverse, rest)
  | fuel + 1, '\\' :: 'u' :: rest =>
      match readUnicodeEscape? rest with
      | some (c, after) => readString? fuel (c :: taken) after
      | none => none
  | fuel + 1, '\\' :: letter :: rest =>
      match simpleEscape? letter with
      | some c => readString? fuel (c :: taken) rest
      | none => none
  | fuel + 1, c :: rest => if c.toNat < 0x20 then none else readString? fuel (c :: taken) rest

/-- The digits at the front of a text, and the rest. -/
def splitDigits (text : List Char) : List Char × List Char := text.span Char.isDigit

def readExponent (text : List Char) : Option Int × List Char :=
  match text with
  | e :: rest =>
      if e = 'e' || e = 'E' then
        let (negative, unsigned) :=
          match rest with
          | '-' :: more => (true, more)
          | '+' :: more => (false, more)
          | _ => (false, rest)
        let (digits, after) := splitDigits unsigned
        let value : Int := (String.ofList digits).toNat?.getD 0
        (some (if negative then -value else value), after)
      else (none, text)
  | [] => (none, [])

/-- A number: an integer within 64 bits if it has neither fraction nor exponent. -/
def readNumber? (text : List Char) : Option (Json × List Char) :=
  let (negative, unsigned) :=
    match text with
    | '-' :: rest => (true, rest)
    | _ => (false, text)
  let (whole, afterWhole) := splitDigits unsigned
  if whole.isEmpty then none
  else
    let (fraction, afterFraction) :=
      match afterWhole with
      | '.' :: rest => let (digits, after) := splitDigits rest; (some digits, after)
      | _ => (none, afterWhole)
    let (exponent, rest) := readExponent afterFraction
    let digits := (String.ofList (whole ++ fraction.getD [])).toNat?.getD 0
    if fraction.isNone && exponent.isNone then
      let value : Int := if negative then -(digits : Int) else digits
      if (negative && digits = 0) || value < -Int.pow 2 63 || Int.pow 2 64 ≤ value then
        some (.decimal ⟨negative, digits, 0⟩, rest)
      else some (.integer value, rest)
    else
      some (.decimal ⟨negative, digits, exponent.getD 0 - ((fraction.getD []).length : Int)⟩, rest)

/-- The rest of a text after a word. -/
def dropWord? (word text : List Char) : Option (List Char) :=
  if text.take word.length = word then some (text.drop word.length) else none

mutual

/-- A value, after blanks. -/
def readValue? (fuel : Nat) (text : List Char) : Option (Json × List Char) :=
  match fuel with
  | 0 => none
  | fuel + 1 =>
      match skipSpace text with
      | [] => none
      | '"' :: rest =>
          (readString? (rest.length + 1) [] rest).map fun (s, after) => (.string s, after)
      | '[' :: rest =>
          match skipSpace rest with
          | ']' :: after => some (.array [], after)
          | _ => (readItems? fuel rest).map fun (items, after) => (.array items, after)
      | '\x7b' :: rest =>
          match skipSpace rest with
          | '\x7d' :: after => some (.object [], after)
          | _ => (readMembers? fuel rest).map fun (members, after) => (ofMembers members, after)
      | 't' :: rest => (dropWord? "rue".toList rest).map fun after => (.bool true, after)
      | 'f' :: rest => (dropWord? "alse".toList rest).map fun after => (.bool false, after)
      | 'n' :: rest => (dropWord? "ull".toList rest).map fun after => (.null, after)
      | c :: rest => readNumber? (c :: rest)

/-- The items of an array that is not empty, up to its closing bracket. -/
def readItems? (fuel : Nat) (text : List Char) : Option (List Json × List Char) :=
  match fuel with
  | 0 => none
  | fuel + 1 =>
      match readValue? fuel text with
      | none => none
      | some (item, rest) =>
          match skipSpace rest with
          | ',' :: more => (readItems? fuel more).map fun (items, after) => (item :: items, after)
          | ']' :: after => some ([item], after)
          | _ => none

/-- The members of an object that is not empty, up to its closing brace. -/
def readMembers? (fuel : Nat) (text : List Char) : Option (List (String × Json) × List Char) :=
  match fuel with
  | 0 => none
  | fuel + 1 =>
      match skipSpace text with
      | '"' :: afterQuote =>
          match readString? (afterQuote.length + 1) [] afterQuote with
          | none => none
          | some (key, afterKey) =>
              match skipSpace afterKey with
              | ':' :: afterColon =>
                  match readValue? fuel afterColon with
                  | none => none
                  | some (value, rest) =>
                      match skipSpace rest with
                      | ',' :: more =>
                          (readMembers? fuel more).map fun (members, after) =>
                            ((key, value) :: members, after)
                      | '\x7d' :: after => some ([(key, value)], after)
                      | _ => none
              | _ => none
      | _ => none

end

def read? (text : String) : Option Json :=
  let chars := text.toList
  match readValue? (2 * chars.length + 2) chars with
  | some (value, rest) => if (skipSpace rest).isEmpty then some value else none
  | none => none

end ShortcodeExpansion.Json

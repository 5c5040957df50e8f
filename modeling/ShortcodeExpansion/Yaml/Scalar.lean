import ShortcodeExpansion.Yaml.Character
import ShortcodeExpansion.Yaml.Node

/-!
# Values of scalars

What a scalar stands for.  A plain scalar without a tag is a number, a truth value or nothing at all
if it looks like one, and text otherwise; quoted and block scalars are text.  A tag decides instead,
and the scalar has to look as the tag says.
-/

set_option autoImplicit false

namespace ShortcodeExpansion.Yaml

inductive Value where
  | null
  | bool (value : Bool)
  /-- A number that can count or index. -/
  | natural (value : Nat)
  /-- Any other number. -/
  | number
  | text (text : String)
deriving DecidableEq, Repr

def isNullText (text : String) : Bool := text ∈ ["null", "Null", "NULL", "~"]

def boolOfText? (text : String) : Option Bool :=
  if text ∈ ["true", "True", "TRUE"] then some true
  else if text ∈ ["false", "False", "FALSE"] then some false
  else none

def digitsNumber? (base : Nat) : List Char → Option Nat
  | [] => none
  | digits => digits.foldlM (fun n c =>
      ((hexDigit? c).filter (· < base)).map (base * n + ·)) 0

/-- The base that the start of a number names, and the rest. -/
def base? : List Char → Option (Nat × List Char)
  | '0' :: 'x' :: rest => some (16, rest)
  | '0' :: 'o' :: rest => some (8, rest)
  | '0' :: 'b' :: rest => some (2, rest)
  | _ => none

/-- A number without a sign.  Digits that start with a zero are none, but for the zero alone. -/
def unsigned? (chars : List Char) : Option Nat :=
  match base? chars with
  | some (base, rest) => digitsNumber? base rest
  | none => if chars.head? = some '0' && 1 < chars.length then none else digitsNumber? 10 chars

/-- Whole numbers have 128 bits; those that are not negative and have 64 can index. -/
def integer? (text : String) : Option Value :=
  match text.toList with
  | '-' :: rest =>
      (unsigned? rest).bind fun n => if n ≤ Nat.pow 2 127 then some .number else none
  | chars =>
      let rest := if chars.head? = some '+' then chars.drop 1 else chars
      (unsigned? rest).bind fun n =>
        if n < Nat.pow 2 64 then some (.natural n)
        else if n < Nat.pow 2 128 then some .number
        else none

/-- A decimal number as it is written: the digits before and after the point, and the exponent. -/
structure DecimalText where
  whole : List Char
  fraction : List Char
  exponent : Int
deriving DecidableEq, Repr

def exponent? : List Char → Option Int
  | '-' :: digits => (digitsNumber? 10 digits).map fun n => -(n : Int)
  | '+' :: digits => (digitsNumber? 10 digits).map Int.ofNat
  | digits => (digitsNumber? 10 digits).map Int.ofNat

/-- Digits with a point among them or none, and an exponent or none.  There is a digit at least. -/
def decimalText? (chars : List Char) : Option DecimalText := do
  let whole := chars.takeWhile Char.isDigit
  let rest := chars.drop whole.length
  let (fraction, rest) := match rest with
    | '.' :: rest =>
        let fraction := rest.takeWhile Char.isDigit
        (fraction, rest.drop fraction.length)
    | _ => ([], rest)
  if whole.isEmpty && fraction.isEmpty then none
  else
    match rest with
    | [] => some ⟨whole, fraction, 0⟩
    | e :: digits =>
        if e = 'e' || e = 'E' then (exponent? digits).map (⟨whole, fraction, ·⟩) else none

/-- Whether a decimal number is near enough to zero to have a double next to it.  The greatest
double is `2 ^ 1024 - 2 ^ 971`, and what is less than half a step above it is still nearest to
it. -/
def DecimalText.isFinite (d : DecimalText) : Bool :=
  let digits := (d.whole ++ d.fraction).dropWhile (· = '0')
  let scale := d.exponent - d.fraction.length
  let size := scale + digits.length
  if digits.isEmpty || size < 300 then true
  else if 310 < size then false
  else
    let n := digits.foldl (fun n c => 10 * n + (c.toNat - '0'.toNat)) 0
    let limit := Nat.pow 2 1024 - Nat.pow 2 970
    if 0 ≤ scale then n * Nat.pow 10 scale.toNat < limit
    else n < limit * Nat.pow 10 (-scale).toNat

/-- Whether a text is a number with a fraction, or one of the numbers that have none. -/
def isFloatText (text : String) : Bool :=
  let chars := text.toList
  let afterPlus := if chars.head? = some '+' then chars.drop 1 else chars
  let afterSign := if chars.head? = some '-' then chars.drop 1 else afterPlus
  text ∈ ["-.inf", "-.Inf", "-.INF", ".nan", ".NaN", ".NAN"] ||
    String.ofList afterPlus ∈ [".inf", ".Inf", ".INF"] ||
    (decimalText? afterSign).any DecimalText.isFinite

/-- Whether a text is digits that start with a zero; it is text then. -/
def isZeroPadded (text : String) : Bool :=
  let chars := text.toList
  let digits := if chars.head?.any fun c => c = '-' || c = '+' then chars.drop 1 else chars
  digits.head? = some '0' && 1 < digits.length && digits.all Char.isDigit

/-- What a plain scalar without a tag stands for. -/
def plainValue (text : String) : Value :=
  if text.isEmpty || isNullText text then .null
  else
    match boolOfText? text with
    | some b => .bool b
    | none =>
        match integer? text with
        | some value => value
        | none => if !isZeroPadded text && isFloatText text then .number else .text text

/-- What a scalar with a tag stands for.  None of the tags that a text may define itself is known
here. -/
def taggedValue? (tag text : String) : Option Value :=
  if tag.startsWith "!" then none
  else
    match tag with
    | "tag:yaml.org,2002:bool" => (boolOfText? text).map .bool
    | "tag:yaml.org,2002:int" => integer? text
    | "tag:yaml.org,2002:float" => if isFloatText text then some .number else none
    | "tag:yaml.org,2002:null" => if isNullText text then some .null else none
    | _ => some (.text text)

/-- What a node stands for; collections have no value. -/
def value? : Node → Option Value
  | .scalar p style text =>
      match p.tag with
      | some tag => taggedValue? tag text
      | none => some (if style = .plain then plainValue text else .text text)
  | _ => none

end ShortcodeExpansion.Yaml

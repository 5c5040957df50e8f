import ShortcodeExpansion.Json.Basic

/-!
# The text of a decimal

A number that is no integer is held with the precision of a double.  Its text has the fewest digits
that read back as the same double, the nearest such if there are several; it is positional while the
point falls within sixteen digits or at most four zeros follow it, and has an exponent otherwise.
-/

set_option autoImplicit false

namespace ShortcodeExpansion

/-- A positive fraction. -/
structure Ratio where
  num : Nat
  den : Nat
deriving DecidableEq, Repr

namespace Ratio

/-- The value `digits · 10 ^ exponent`. -/
def ofDecimal (digits : Nat) (exponent : Int) : Ratio :=
  if 0 ≤ exponent then ⟨digits * Nat.pow 10 exponent.toNat, 1⟩
  else ⟨digits, Nat.pow 10 (-exponent).toNat⟩

/-- The value `mantissa · 2 ^ exponent`. -/
def ofBinary (mantissa : Nat) (exponent : Int) : Ratio :=
  if 0 ≤ exponent then ⟨mantissa * Nat.pow 2 exponent.toNat, 1⟩
  else ⟨mantissa, Nat.pow 2 (-exponent).toNat⟩

/-- The quotient by a power of two, rounded to the nearest integer, ties to even. -/
def roundBinary (r : Ratio) (exponent : Int) : Nat :=
  let num := if 0 ≤ exponent then r.num else r.num * Nat.pow 2 (-exponent).toNat
  let den := if 0 ≤ exponent then r.den * Nat.pow 2 exponent.toNat else r.den
  let quotient := num / den
  let twice := 2 * (num % den)
  if den < twice || (twice = den && quotient % 2 = 1) then quotient + 1 else quotient

end Ratio

/-- A double: `mantissa · 2 ^ exponent` with at most 53 bits in the mantissa. -/
structure Binary64 where
  mantissa : Nat
  exponent : Int
deriving DecidableEq, Repr

namespace Binary64

/-- The double nearest to a positive fraction. -/
def nearest (r : Ratio) : Binary64 :=
  let guess : Int := (Nat.log2 r.num : Int) - (Nat.log2 r.den : Int) - 53
  let fits (e : Int) : Bool := r.roundBinary e ≤ Nat.pow 2 53
  let chosen :=
    max (-1074)
      (if fits guess then guess else if fits (guess + 1) then guess + 1 else guess + 2)
  let mantissa := r.roundBinary chosen
  if mantissa = Nat.pow 2 53 then ⟨Nat.pow 2 52, chosen + 1⟩ else ⟨mantissa, chosen⟩

/-- Whether a decimal reads back as a double. -/
def isNearestTo (b : Binary64) (digits : Nat) (exponent : Int) : Bool :=
  digits ≠ 0 && nearest (.ofDecimal digits exponent) = b

/-- The fewest digits that read back, with their exponent: the two neighbours of the value are tried
on each decimal grid, coarse grids first. -/
def shortest (b : Binary64) : Nat × Int :=
  let value := Ratio.ofBinary b.mantissa b.exponent
  let top : Int := (String.length (toString (value.num / value.den)) : Int)
  let lead : Int :=
    if value.den ≤ value.num then top
    else 1 - ((String.length (toString (value.den / value.num)) : Int))
  let attempt (count : Nat) : Option (Nat × Int) :=
    let exponent : Int := lead - count
    let num := if 0 ≤ exponent then value.num else value.num * Nat.pow 10 (-exponent).toNat
    let den := if 0 ≤ exponent then value.den * Nat.pow 10 exponent.toNat else value.den
    let below := num / den
    let nearBelow := 2 * (num % den) ≤ den
    let low := b.isNearestTo below exponent
    let high := b.isNearestTo (below + 1) exponent
    if low && (nearBelow || !high) then some (below, exponent)
    else if high then some (below + 1, exponent)
    else none
  ((List.range 20).findSome? fun n => attempt n).getD (b.mantissa, 0)

end Binary64

/-- A decimal without trailing zeros. -/
def trimZeros : Nat → Nat → Int → Nat × Int
  | 0, digits, exponent => (digits, exponent)
  | fuel + 1, digits, exponent =>
      if digits ≠ 0 && digits % 10 = 0 then trimZeros fuel (digits / 10) (exponent + 1)
      else (digits, exponent)

/-- The text of a number with the precision of a double. -/
def Decimal.toText (d : Decimal) : String :=
  let sign := if d.negative then "-" else ""
  if d.digits = 0 then sign ++ "0.0"
  else
    let rounded := (Binary64.nearest (.ofDecimal d.digits d.exponent)).shortest
    let (digits, exponent) := trimZeros 400 rounded.1 rounded.2
    let text := (toString digits).toList
    let length : Int := text.length
    let point := length + exponent
    let zeros (n : Int) : List Char := List.replicate n.toNat '0'
    let body :=
      if 0 ≤ exponent && point ≤ 16 then text ++ zeros exponent ++ ['.', '0']
      else if 0 < point && point ≤ 16 then
        text.take point.toNat ++ ['.'] ++ text.drop point.toNat
      else if -5 < point && point ≤ 0 then ['0', '.'] ++ zeros (-point) ++ text
      else
        let mantissa := if text.length = 1 then text else text.take 1 ++ ['.'] ++ text.drop 1
        mantissa ++ 'e' :: (toString (point - 1)).toList
    sign ++ String.ofList body

end ShortcodeExpansion

import Regrid.Scalar.Binary
/-!
# Decimal — exact decimals, and rounding a binary value to one

A `Decimal` is `± coefficient * 10 ^ exponent`.  An exact binary value is rounded to a given decimal position, a tie
going to the even digit, and a decimal is written in positional notation.
-/
namespace Regrid

/-- **An exact decimal**: `± coefficient * 10 ^ exponent`. -/
structure Decimal where
  negative : Bool
  coefficient : Nat
  exponent : Int
  deriving DecidableEq, Repr

namespace Decimal

/-- **The digits of a natural number**, most significant first. -/
def digits (n : Nat) : List Char := Nat.toDigits 10 n

/-- **The decimal of exponent `e` nearest to `± num / den`.** -/
def nearest (negative : Bool) (num den : Nat) (e : Int) : Decimal :=
  let coefficient :=
    if 0 ≤ e then Binary.roundDiv num (den * Nat.pow 10 e.toNat) else Binary.roundDiv (num * Nat.pow 10 (-e).toNat) den
  ⟨negative, coefficient, e⟩

/-- **The exponent `e` with `10 ^ e ≤ num / den < 10 ^ (e + 1)`**, for a positive quotient. -/
def magnitude (num den : Nat) : Int :=
  if den ≤ num then ((digits (num / den)).length : Int) - 1
  else
    let guess : Int := -(((digits (den / num)).length : Int) - 1)
    if den ≤ num * Nat.pow 10 (-guess).toNat then guess else guess - 1

/-- **Dropping the zeros at the end of a coefficient**, at most `fuel` of them. -/
def trimZeros : Nat → Decimal → Decimal
  | 0, d => d
  | fuel + 1, d =>
    if d.coefficient ≠ 0 ∧ d.coefficient % 10 = 0 then
      trimZeros fuel { d with coefficient := d.coefficient / 10, exponent := d.exponent + 1 }
    else d

/-- **A decimal whose coefficient does not end in zero.** -/
def trim (d : Decimal) : Decimal :=
  if d.coefficient = 0 then { d with exponent := 0 } else trimZeros (digits d.coefficient).length d

/-- **The digits before and after the decimal point.** -/
def parts (d : Decimal) : List Char × List Char :=
  let ds := digits d.coefficient
  if 0 ≤ d.exponent then
    (if d.coefficient = 0 then ['0'] else ds ++ List.replicate d.exponent.toNat '0', [])
  else
    let places := (-d.exponent).toNat
    if places < ds.length then (ds.take (ds.length - places), ds.drop (ds.length - places))
    else (['0'], List.replicate (places - ds.length) '0' ++ ds)

/-- **Positional notation**: no exponent, no zeros at the end, no point without a digit after it. -/
def positional (d : Decimal) : String :=
  let (whole, fraction) := d.trim.parts
  let sign := if d.negative && d.coefficient != 0 then "-" else ""
  sign ++ String.ofList whole ++ (if fraction.isEmpty then "" else "." ++ String.ofList fraction)

/-- **Nine digits**: nine decimals below one in magnitude, nine significant digits from one on. -/
def nineDigits (negative : Bool) (significand : Nat) (exponent : Int) : Decimal :=
  let (num, den) := Binary.quotient significand exponent
  if num < den then nearest negative num den (-9) else nearest negative num den (magnitude num den - 8)

/-- **The text of a binary value to nine digits.** -/
def text (b : Binary) : String :=
  match b with
  | .nan => "nan"
  | .infinity negative => if negative then "-inf" else "inf"
  | .finite negative significand exponent => (nineDigits negative significand exponent).positional

end Decimal
end Regrid

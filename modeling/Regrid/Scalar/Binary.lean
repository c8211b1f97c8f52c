import Regrid.Scalar
/-!
# Binary — floating formats

A finite binary float is an integer times a power of two.  This module reads that integer and that power off a `Float`,
and rounds an exact quotient to the nearest member of a format, a tie going to the even significand.  All of it is
integer arithmetic, so a closed statement about floats can be evaluated.
-/
namespace Regrid

/-- **An exact binary value**: not a number, infinite, or `± significand * 2 ^ exponent`. -/
inductive Binary
  | nan
  | infinity (negative : Bool)
  | finite (negative : Bool) (significand : Nat) (exponent : Int)
  deriving DecidableEq, Repr

/-- **A floating format**: the number of significant bits, the exponent of its smallest positive member, and the
power of two at which it overflows. -/
structure Binary.Format where
  digits : Nat
  minExponent : Int
  overflow : Int
  deriving DecidableEq, Repr

namespace Binary

def format : Precision → Format
  | .half => ⟨11, -24, 16⟩
  | .single => ⟨24, -149, 128⟩
  | .double => ⟨53, -1074, 1024⟩
  | .extended => ⟨64, -16445, 16384⟩

/-- **`⌊num / den⌉`, a tie going to the even neighbour.** -/
def roundDiv (num den : Nat) : Nat :=
  let q := num / den
  let r := num % den
  if 2 * r < den then q
  else if den < 2 * r then q + 1
  else if q % 2 = 0 then q
  else q + 1

/-- **The exponent `e` with `2 ^ e ≤ num / den < 2 ^ (e + 1)`**, for a positive quotient. -/
def exponentOf (num den : Nat) : Int :=
  let e : Int := (num.log2 : Int) - den.log2
  let atLeast := if 0 ≤ e then den <<< e.toNat ≤ num else den ≤ num <<< (-e).toNat
  if atLeast then e else e - 1

/-- **The member of a format nearest to `± num / den`.** -/
def nearest (f : Format) (negative : Bool) (num den : Nat) : Binary :=
  if num = 0 then .finite negative 0 f.minExponent
  else
    let unit := max (exponentOf num den - (f.digits - 1 : Nat)) f.minExponent
    let significand := if 0 ≤ unit then roundDiv num (den <<< unit.toNat) else roundDiv (num <<< (-unit).toNat) den
    if f.overflow ≤ unit + significand.log2 then .infinity negative else .finite negative significand unit

/-- **The numerator and denominator of `significand * 2 ^ exponent`.** -/
def quotient (significand : Nat) (exponent : Int) : Nat × Nat :=
  if 0 ≤ exponent then (significand <<< exponent.toNat, 1) else (significand, 1 <<< (-exponent).toNat)

/-- **The member of a format nearest to a binary value.** -/
def round (f : Format) : Binary → Binary
  | .finite negative significand exponent =>
    let (num, den) := quotient significand exponent
    nearest f negative num den
  | b => b

/-- **The bits of the member of a format nearest to a binary value**: a sign, a field for the exponent, and a fraction
that leaves out the leading bit unless the field is zero. -/
def toBits (f : Format) (b : Binary) : Nat :=
  let leading := 1 <<< (f.digits - 1)
  let fields := 2 * f.overflow.toNat
  let sign (negative : Bool) := if negative then fields * leading else 0
  match b.round f with
  | .nan => (fields - 1) * leading + leading / 2
  | .infinity negative => sign negative + (fields - 1) * leading
  | .finite negative significand exponent =>
    sign negative + (exponent - f.minExponent).toNat * leading + significand

/-- **The member of a format with given bits.** -/
def ofBits (f : Format) (bits : Nat) : Binary :=
  let leading := 1 <<< (f.digits - 1)
  let fields := 2 * f.overflow.toNat
  let fraction := bits % leading
  let field := bits / leading % fields
  let negative := bits / leading / fields % 2 == 1
  if field = fields - 1 then if fraction = 0 then .infinity negative else .nan
  else if field = 0 then .finite negative fraction f.minExponent
  else .finite negative (fraction + leading) (f.minExponent + field - 1)

/-- **The exact value of a `Float`.** -/
def ofFloat (x : Float) : Binary := ofBits (format .double) x.toBits.toNat

/-- **The `Float` nearest to an exact binary value.** -/
def toFloat (b : Binary) : Float := Float.ofBits (UInt64.ofNat (b.toBits (format .double)))

/-- **The `Float` nearest to an integer.** -/
def floatOfInt (n : Int) : Float :=
  if n.natAbs < 1 <<< 53 then
    let magnitude := (UInt64.ofNat n.natAbs).toFloat
    if n < 0 then -magnitude else magnitude
  else toFloat (nearest (format .double) (n < 0) n.natAbs 1)

/-- **The `Float` nearest to `m * 10 ^ e`.** -/
def floatOfDecimal (m e : Int) : Float :=
  let magnitude : Int := e + (m.natAbs.log2 : Int) * 3 / 10
  if m = 0 then 0
  else if 400 < magnitude then toFloat (.infinity (m < 0))
  else if magnitude < -800 then toFloat (.finite (m < 0) 0 0)
  else if 0 ≤ e then toFloat (nearest (format .double) (m < 0) (m.natAbs * Nat.pow 10 e.toNat) 1)
  else toFloat (nearest (format .double) (m < 0) m.natAbs (Nat.pow 10 (-e).toNat))

/-- **Rounding a `Float` to a precision.** -/
def narrow (p : Precision) (x : Float) : Float :=
  match p with
  | .double | .extended => x
  | p => toFloat ((ofFloat x).round (format p))

/-- **The `Float` that a precision stores for an integer.**  Half precision is reached by way of single precision. -/
def storeInt (p : Precision) (n : Int) : Float :=
  let single := toFloat (nearest (format .single) (n < 0) n.natAbs 1)
  match p with
  | .half => narrow .half single
  | .single => single
  | .double | .extended => floatOfInt n

/-- **The integer at or below an exact binary value**, and zero for a value that is not finite. -/
def floor : Binary → Int
  | .finite negative significand exponent =>
    let (num, den) := quotient significand exponent
    (if negative then -(num : Int) else num).fdiv den
  | _ => 0

end Binary

end Regrid

import Regrid.Scalar.Binary
/-!
# Extended — floats of eighty bits

The bits of an extended float are a sign, a field of fifteen bits for the exponent, and all 64 bits of its significand,
the leading one included.
-/
namespace Regrid.Binary

/-- **The exponent whose field is zero.** -/
def extendedBias : Int := 16383

/-- **The bits of a binary value in extended precision**, which is wide enough for it. -/
def toExtendedBits (b : Binary) : Nat :=
  let join (negative : Bool) (field significand : Nat) : Nat :=
    ((if negative then 0x8000 else 0) + field) <<< 64 + significand
  match b with
  | .nan => join false 0x7fff (3 <<< 62)
  | .infinity negative => join negative 0x7fff (1 <<< 63)
  | .finite negative significand exponent =>
    if significand = 0 then join negative 0 0
    else
      let leading := significand.log2
      join negative (exponent + leading + extendedBias).toNat (significand <<< (63 - leading))

/-- **The binary value with given bits in extended precision.** -/
def ofExtendedBits (bits : Nat) : Binary :=
  let significand := bits % (1 <<< 64)
  let field := bits >>> 64 % 0x8000
  let negative := bits >>> 79 % 2 == 1
  if field = 0x7fff then if significand % (1 <<< 63) = 0 then .infinity negative else .nan
  else .finite negative significand (field - extendedBias - 63)

end Regrid.Binary

/-!
# Scalar — the arithmetic every numeric definition is written over

Each numeric definition of the library is stated once, over a type `α` of scalars: it runs at `Float`, and it can be
reasoned about at a type of exact numbers with the same three kinds of value (finite, not a number, infinite).
Comparisons follow the usual rules for values that are not numbers: they are false.
-/
namespace Regrid

/-- **The precision a real number is stored with.** -/
inductive Precision
  | half
  | single
  | double
  /-- Wider than double precision; only values that a double has are stored with it. -/
  | extended
  deriving DecidableEq, Repr

namespace Precision

/-- **The wider of two precisions.** -/
def max : Precision → Precision → Precision
  | extended, _ | _, extended => extended
  | double, _ | _, double => double
  | single, _ | _, single => single
  | half, half => half

/-- **The number of bits of a stored value.** -/
def bits : Precision → Nat
  | half => 16
  | single => 32
  | double => 64
  | extended => 128

end Precision

/-- **Scalars**: field operations, comparisons, a square root, the values that are not finite, and the passage to and
from integers. -/
class Scalar (α : Type) extends Add α, Sub α, Mul α, Div α, Neg α, LT α, LE α, BEq α where
  decLt : DecidableRel (fun a b : α => a < b)
  decLe : DecidableRel (fun a b : α => a ≤ b)
  /-- The scalar nearest to an integer. -/
  ofInt : Int → α
  /-- The scalar nearest to `m * 10 ^ e`. -/
  ofDecimal : Int → Int → α
  nan : α
  infinity : α
  sqrt : α → α
  /-- The largest integer at or below a finite scalar. -/
  floor : α → Int
  isNaN : α → Bool
  isFinite : α → Bool
  /-- The nearest scalar that a precision can store. -/
  narrow : Precision → α → α
  /-- The scalar that a precision stores for an integer. -/
  storeInt : Precision → Int → α
  /-- The shortest text that tells a scalar from the others that a precision can store. -/
  text : Precision → α → String

namespace Scalar

variable {α : Type} [Scalar α]

instance (a b : α) : Decidable (a < b) := Scalar.decLt a b

instance (a b : α) : Decidable (a ≤ b) := Scalar.decLe a b

instance (priority := low) {n : Nat} : OfNat α n := ⟨ofInt n⟩

def half : α := 1 / 2

/-- **The smallest integer at or above a finite scalar.** -/
def ceil (x : α) : Int := -floor (-x)

/-- **The integer part of a finite scalar**, towards zero. -/
def trunc (x : α) : Int := if x < 0 then ceil x else floor x

/-- **A finite scalar is integral** when rounding it down does not change it. -/
def isIntegral (x : α) : Bool := isFinite x && ofInt (floor x) == x

/-- **The integer nearest to a finite scalar**, a half going to the even neighbour. -/
def rint (x : α) : Int :=
  let f := floor x
  let middle : α := ofInt (2 * f + 1)
  if (ofInt f : α) == x then f
  else if x + x < middle then f
  else if middle < x + x then f + 1
  else if f % 2 = 0 then f
  else f + 1

/-- **The absolute value.** -/
def abs (x : α) : α := if x < 0 then -x else x

/-- **The scalar nearest to an integer**, unless the integer lies beyond all finite scalars. -/
def ofInt? (n : Int) : Option α :=
  let x : α := ofInt n
  if isFinite x then some x else none

/-- **One for true and zero for false.** -/
def ofBool (b : Bool) : α := if b then 1 else 0

/-- **Two scalars are close**: they are equal, or finite and apart by at most `atol + rtol * |b|`. -/
def isClose (rtol atol a b : α) : Bool :=
  if isFinite a && isFinite b then decide (abs (a - b) ≤ atol + rtol * abs b) else a == b

end Scalar
end Regrid

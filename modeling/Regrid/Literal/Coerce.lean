import Regrid.Tensor.Capacity
import Regrid.Text.Numeral
/-!
# Coerce — literals as numbers, lists and arrays

A literal is read as a real number, a whole number, a padded list or an array of reals.  Text is read as a numeral.
In an array a null stands for a value that is not a number; on its own it is of the wrong kind.
-/
namespace Regrid

namespace Number

variable {α : Type} [Scalar α]

/-- **A number as a real one**, if it is not beyond all of them. -/
def toReal : Number α → Except (Fault α) α
  | bool b => .ok (Scalar.ofBool b)
  | int n => (Scalar.ofInt? n).elim (.error .outOfRange) .ok
  | real x => .ok x

/-- **The integer part of a number.** -/
def toInt : Number α → Except (Fault α) Int
  | bool b => .ok (ofBool b)
  | int n => .ok n
  | real x =>
    if Scalar.isNaN x then .error .nanToInteger
    else if Scalar.isFinite x then .ok (Scalar.trunc x)
    else .error .outOfRange

/-- **The sum of two numbers**, whole if both are.  A whole number is added to a real one as a real number. -/
def add : Number α → Number α → Except (Fault α) (Number α)
  | real x, b => return real (x + (← b.toReal))
  | a, real y => return real ((← a.toReal) + y)
  | int m, int n => .ok (int (m + n))
  | int m, bool b => .ok (int (m + ofBool b))
  | bool a, int n => .ok (int (ofBool a + n))
  | bool a, bool b => .ok (int (ofBool a + ofBool b))

/-- **A number is whole** when its real value is exactly an integer. -/
def isWhole : Number α → Bool
  | bool _ => true
  | int n => (Scalar.ofInt? (α := α) n).any fun x => Scalar.floor x == n
  | real x => Scalar.isIntegral x

end Number

namespace Literal

variable {α : Type}

/-- **The first `n` items of a list**; a negative `n` leaves that many items off the end. -/
def takeSigned {β : Type} (n : Int) (xs : List β) : List β :=
  if 0 ≤ n then xs.take n.toNat else xs.take (xs.length - n.natAbs)

/-- **A literal as a list of `n` items**: its own items cut to `n`, or itself if it has none, and then the filler as
often as needed.  Without a filler the last item is repeated. -/
def pad (l : Literal α) (n : Int) (filler : Option (Literal α)) : Except (Fault α) (List (Literal α)) := do
  let items := match l.items? with
    | some xs => takeSigned n xs
    | none => [l]
  let filler ← match filler, items.getLast? with
    | some f, _ => pure f
    | none, some last => pure last
    | none, none => .error .emptyList
  return items ++ List.replicate (n - items.length).toNat filler

mutual

/-- **The sizes of the levels of a nested list**, if all lists on one level are alike. -/
def levels? : Literal α → Option Shape
  | list xs => levelsOfItems? xs
  | _ => some []

/-- **The sizes of the levels of a list of literals**, if they are alike. -/
def levelsOfItems? : List (Literal α) → Option Shape
  | [] => some [0]
  | [l] => (levels? l).map (1 :: ·)
  | l :: ls => match levels? l, levelsOfItems? ls with
    | some s, some (n :: t) => if s = t then some ((n + 1) :: t) else none
    | _, _ => none

end

/-- **The most axes of an array.** -/
def mostAxes : Nat := 64

/-- **The shape of a nested list**, if all lists on one level have the same shape and an array can have as many axes
as there are levels. -/
def shape? (l : Literal α) : Option Shape := (levels? l).filter (·.length ≤ mostAxes)

mutual

/-- **The leaves of a nested list**, in order. -/
def leaves : Literal α → List (Literal α)
  | list xs => leavesOfItems xs
  | l => [l]

/-- **The leaves of a list of literals**, in order. -/
def leavesOfItems : List (Literal α) → List (Literal α)
  | [] => []
  | l :: ls => leaves l ++ leavesOfItems ls

end

/-- **The leaves of a nested list as an array.** -/
def toTensor (l : Literal α) : Except (Fault α) (Tensor (Literal α)) :=
  match l.shape?.bind fun s => Tensor.ofList? s l.leaves with
  | some t => .ok t
  | none => .error .ragged

variable [Scalar α]

/-- **The greatest number of items of a list.** -/
def mostItems : Int := IntType.int64.maximum

/-- **A literal as a list of a length as it is written.**  A length written as a real number cuts no list and repeats
no item: the literal itself is the only item, and more cannot be asked for.  What is no number is no length, but first
there has to be something to fill with. -/
def padTo [Capacity] (l n : Literal α) (filler : Option (Literal α)) : Except (Fault α) (List (Literal α)) := do
  let own : Nat := l.items?.elim 1 List.length
  match n with
  | .number (.real x) => if 1 < x then .error .wrongKind else return [l]
  | .number n =>
    let n ← n.toInt
    discard (pad l (min n own) filler)
    if mostItems < n then .error .outOfRange
    if Int.ofNat Capacity.roomless ≤ n then .error .noRoom
    pad l n filler
  | .null =>
    discard (pad l own filler)
    .error .wrongKind
  | _ => .error .wrongKind

def toReal : Literal α → Except (Fault α) α
  | number n => n.toReal
  | text s => (Text.readReal? s).elim (.error (.notNumeric s)) .ok
  | _ => .error .wrongKind

/-- **The integer part of a literal.** -/
def toInt : Literal α → Except (Fault α) Int
  | number n => n.toInt
  | text s => (Text.readInt? s).elim (.error (.notNumeric s)) .ok
  | _ => .error .wrongKind

/-- **A literal as the position of an item in a list**, which has to be a whole number. -/
def toPosition : Literal α → Except (Fault α) Int
  | number (.int n) => .ok n
  | number (.bool b) => .ok (Number.ofBool b)
  | _ => .error .wrongKind

/-- **A literal is whole** when its real value is exactly the integer it reads as. -/
def isWhole : Literal α → Bool
  | number n => n.isWhole
  | text s => match Text.readReal? (α := α) s, Text.readInt? s with
    | some x, some n => Scalar.isFinite x && Scalar.isIntegral x && Scalar.floor x == n
    | _, _ => false
  | _ => false

/-- **A literal as a cell of an array of reals**: null is not a number. -/
def toCell : Literal α → Except (Fault α) α
  | null => .ok Scalar.nan
  | l => l.toReal

def toReals (l : Literal α) : Except (Fault α) (Tensor α) := do (← l.toTensor).mapM toCell

end Literal
end Regrid

import Regrid.Scalar
/-!
# Literal — values as a user writes them

Options and coordinates arrive as literals: numbers, text, lists and records.  A number keeps the kind it was written
with, since a whole number, a real number and a truth value are stored and printed differently.
-/
namespace Regrid

/-- **A number as it was written.** -/
inductive Number (α : Type)
  | bool (b : Bool)
  | int (n : Int)
  | real (x : α)
  deriving Repr, Inhabited

/-- **A value as it was written.** -/
inductive Literal (α : Type)
  | null
  | number (n : Number α)
  | text (s : String)
  | list (xs : List (Literal α))
  | record (fields : List (String × Literal α))
  deriving Repr, Inhabited

namespace Literal

variable {α : Type}

/-- **A literal is given** unless it is null. -/
def isGiven : Literal α → Bool
  | null => false
  | _ => true

def given? (l : Literal α) : Option (Literal α) := if l.isGiven then some l else none

/-- **The first of two literals if it is given, and the second otherwise.** -/
def orElse (a b : Literal α) : Literal α := if a.isGiven then a else b

/-- **The items a literal runs through**: those of a list, the characters of a text and the keys of a record. -/
def items? : Literal α → Option (List (Literal α))
  | list xs => some xs
  | text s => some (s.toList.map fun c => text c.toString)
  | record fields => some (fields.map fun f => text f.1)
  | _ => none

/-- **The first given literal of a list of choices**; the last choice if none is given. -/
def firstGiven : List (Literal α) → Option (Literal α)
  | [] => none
  | [l] => some l
  | l :: ls => if l.isGiven then some l else firstGiven ls

end Literal

namespace Number

variable {α : Type} [Scalar α]

/-- **The whole number a truth value stands for** in arithmetic. -/
def ofBool (b : Bool) : Int := if b then 1 else 0

def toScalar : Number α → α
  | bool b => Scalar.ofBool b
  | int n => Scalar.ofInt n
  | real x => x

def neg : Number α → Number α
  | real x => real (-x)
  | int n => int (-n)
  | bool b => int (-ofBool b)

/-- **A number equals a whole one**, without being rounded. -/
def equals : Number α → Int → Bool
  | bool b, n => ofBool b == n
  | int m, n => m == n
  | real x, n => Scalar.isIntegral x && Scalar.floor x == n

/-- **A number counts as true** unless it is zero. -/
def isTrue : Number α → Bool
  | bool b => b
  | int n => n != 0
  | real x => !(x == 0)

end Number

/-- **A literal counts as true** unless it is null, zero or empty. -/
def Literal.isTrue {α : Type} [Scalar α] : Literal α → Bool
  | .null => false
  | .number n => n.isTrue
  | .text s => !s.isEmpty
  | .list xs => !xs.isEmpty
  | .record fields => !fields.isEmpty

end Regrid

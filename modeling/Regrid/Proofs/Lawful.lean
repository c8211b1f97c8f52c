import Regrid.Scalar
/-!
# Lawful — the laws of arithmetic that the drivers rest on

The two ways of evaluating a view compute with the same scalars in a different order of steps.  What they need of
the scalars is little: integers of 64 bits are finite, sums that start from zero do not change when zero is added,
double precision keeps a scalar as it is, and storing a scalar twice is storing it once.  Sums may be rounded, and there
may be two zeros.
-/
namespace Regrid

/-- **Lawful scalars**: what the arithmetic of double precision promises about storing and adding. -/
class Scalar.Lawful (α : Type) [Scalar α] : Prop where
  /-- Integers of 64 bits are finite. -/
  isFinite_ofInt {n : Int} : -18446744073709551616 ≤ n → n ≤ 18446744073709551616 →
    Scalar.isFinite (Scalar.ofInt (α := α) n) = true
  /-- Adding zero to zero changes nothing. -/
  zero_add_zero : (Scalar.ofInt 0 : α) + Scalar.ofInt 0 = Scalar.ofInt 0
  /-- If adding zero to a sum changes nothing, this stays so when the sum grows. -/
  add_add_zero {s : α} (x : α) : s + Scalar.ofInt 0 = s → s + x + Scalar.ofInt 0 = s + x
  /-- Double precision keeps every scalar. -/
  narrow_double (x : α) : Scalar.narrow .double x = x
  /-- Double precision stores the scalar nearest to an integer. -/
  storeInt_double (n : Int) : Scalar.storeInt (α := α) .double n = Scalar.ofInt n
  /-- A stored scalar is kept by its precision. -/
  narrow_narrow (p : Precision) (x : α) : Scalar.narrow p (Scalar.narrow p x) = Scalar.narrow p x
  /-- A stored integer is kept by its precision. -/
  narrow_storeInt (p : Precision) (n : Int) :
    Scalar.narrow p (Scalar.storeInt (α := α) p n) = Scalar.storeInt p n
  /-- Every precision has the truth values. -/
  narrow_ofBool (p : Precision) (b : Bool) : Scalar.narrow p (Scalar.ofBool (α := α) b) = Scalar.ofBool b
  /-- Every precision has the mark for a missing value. -/
  narrow_nan (p : Precision) : Scalar.narrow p (Scalar.nan : α) = Scalar.nan

end Regrid

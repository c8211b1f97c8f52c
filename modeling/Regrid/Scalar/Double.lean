import Regrid.Decimal.Shortest
/-!
# Double — `Float` as a scalar

Comparisons, sums, products and square roots are those of the machine; whatever reads, writes or rounds a `Float` goes
through its exact value.
-/
namespace Regrid

instance : Scalar Float where
  decLt := fun a b => Float.decLt a b
  decLe := fun a b => Float.decLe a b
  ofInt := Binary.floatOfInt
  ofDecimal := Binary.floatOfDecimal
  nan := Binary.toFloat .nan
  infinity := Binary.toFloat (.infinity false)
  sqrt := Float.sqrt
  floor := fun x => (Binary.ofFloat x).floor
  isNaN := fun x => Binary.ofFloat x == .nan
  isFinite := fun x => match Binary.ofFloat x with
    | .finite .. => true
    | _ => false
  narrow := Binary.narrow
  storeInt := Binary.storeInt
  text := Decimal.shortestText

end Regrid

import Regrid.Dtype.Name
import Regrid.Tensor.Capacity
import Regrid.Volume
/-!
# Lattice — the indices of all cells of an array

A lattice holds, for each cell of a shape, the indices of the cell along a further last axis.
-/
namespace Regrid

variable {α : Type} [Scalar α] [Capacity]

/-- **The indices of the cells of a shape**, stored in a type of cells.  A truth value holds at most two indices, and
text holds none.  The lattice has one axis more than the shape. -/
def Volume.lattice (d : Dtype) (shape : List Int) : Except (Fault α) (Volume α) := do
  if shape.isEmpty || Literal.mostAxes < shape.length then .error .shapeMismatch
  if shape.length = Literal.mostAxes then .error .indexOutside
  match d with
  | .text _ => .error .wrongKind
  | .bool => if shape.any (2 < ·) then .error .wrongKind
  | _ => pure ()
  let sizes := shape.map Int.toNat
  Shape.reserveLattice sizes
  let indices : Volume α := ⟨.int .int64, Tensor.build (sizes ++ [sizes.length]) fun index =>
    IntType.int64.wrap (Int.ofNat ((index[index.getLastD 0]?).getD 0))⟩
  indices.cast d

/-- **The number of indices below a size as it is written**; a size that is not whole is rounded up. -/
def indicesBelow : Literal α → Except (Fault α) Int
  | .number (.real x) => if Scalar.isFinite x then .ok (Scalar.ceil x) else .error .nanToInteger
  | .number n => n.toInt
  | _ => .error .wrongKind

/-- **A lattice as it is written**, with real indices unless a type is given. -/
def Volume.latticeOfLiterals (shape dtype : Literal α) : Except (Fault α) (Volume α) := do
  let d := (← Dtype.ofLiteral? (if dtype.isTrue then dtype else .null)).getD (.real .double)
  let sizes ← (← shape.items?.elim (.error .wrongKind) .ok).mapM indicesBelow
  Volume.lattice d sizes

end Regrid

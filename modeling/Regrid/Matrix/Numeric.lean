import Regrid.Matrix.Elimination
import Regrid.Matrix.Rotation
import Regrid.Matrix.Solver
import Regrid.Scalar.Double
/-!
# Numeric — solving systems of floats

The rank of a matrix of floats counts the singular values above the rounding errors of the greatest one.  Every
system is solved through the pseudo-inverse, so that a system with too few or too many equations has a solution too.
-/
namespace Regrid.Numeric

/-- **The distance from one to the next float.** -/
def epsilon : Float := Binary.toFloat (.finite false 1 (-52))

/-- **Every entry of a matrix is finite.** -/
def isFinite {m n : Nat} (a : Matrix m n Float) : Bool := a.entries.all Scalar.isFinite

/-- **Dividing a matrix by its entry of greatest magnitude**, so that squares stay in range. -/
def normalise {m n : Nat} (a : Matrix m n Float) : Float × Matrix m n Float :=
  let scale := Rotation.greatest (a.entries.map Scalar.abs)
  if scale == 0 then (1, a) else (scale, a.map (·.map (· / scale)))

/-- **The rank of a matrix up to rounding errors.**  With an infinite entry no singular value counts. -/
def rank {m n : Nat} (a : Matrix m n Float) : Except (Fault Float) Nat :=
  if isFinite a then .ok (Rotation.rank epsilon (normalise a).2)
  else if a.entries.any Scalar.isNaN then .error .notDecomposable
  else .ok 0

/-- **The inverse of a square matrix**, unless elimination meets a pivot of zero. -/
def inverse {n : Nat} (a : Matrix n n Float) : Except (Fault Float) (Matrix n n Float) :=
  match Elimination.solve? a (Matrix.identity n) with
  | some b => .ok b
  | none => .error .notInvertible

/-- **The right-hand sides of a system whose entries are not all finite**: an infinite entry spoils every solution,
and one that is not a number the solution of its own column. -/
def spoilt {m n k : Nat} (b : Matrix m k Float) (x : Matrix n k Float) : Matrix n k Float :=
  let infinite := b.entries.any fun y => !Scalar.isFinite y && !Scalar.isNaN y
  Matrix.ofFn fun i j =>
    if infinite || (Matrix.column b j).any Scalar.isNaN then Scalar.nan else (x.get i).get j

/-- **The least-squares solution of smallest norm**, which is zero for a matrix of zeros. -/
def leastSquares {m n k : Nat} (a : Matrix m n Float) (b : Matrix m k Float) :
    Except (Fault Float) (Matrix n k Float) := do
  if !isFinite a then .error .notDecomposable
  if a.entries.all (· == 0) then return Matrix.ofFn fun _ _ => 0
  let (scale, a) := normalise a
  let x := (Matrix.mul (Rotation.pseudoInverse epsilon a) b).map (·.map (· / scale))
  return spoilt b x

end Regrid.Numeric

namespace Regrid

instance : LinearSolver Float where
  rank := Numeric.rank
  inverse := Numeric.inverse
  leastSquares := Numeric.leastSquares

end Regrid

import Regrid.Matrix.Solver
import Regrid.Volume
/-!
# Table — systems of equations as they are written

The sides of a linear system are nested lists of numbers: a matrix, or one column without inner brackets.  The solution
is the one of least squares and smallest norm.
-/
namespace Regrid.Matrix

variable {α : Type} [Scalar α]

/-- **The matrix of `m` rows and `n` columns in an array**, whose further axes have size one. -/
def ofTensor (m n : Nat) (t : Tensor α) : Matrix m n α :=
  ofFn fun i j => (t.cells[i.val * n + j.val]?).getD 0

/-- **The cells of an array as real numbers to compute with**; text has no arithmetic, and neither have values as they
were written. -/
def numbers (v : Volume α) : Except (Fault α) (Tensor α) :=
  match v.dtype with
  | .text _ | .other => .error .unsupportedOperation
  | _ => v.toReals

/-- **The solution of a linear system as it is written**; it is a column without inner brackets if the right side is. -/
def solveLiterals [LinearSolver α] (left right : Literal α) : Except (Fault α) (Tensor α) := do
  let a ← Volume.ofLiteral left
  let b ← Volume.ofLiteral right
  let (m, n) ← match a.shape with
    | [m] => pure (m, 1)
    | [m, n] => pure (m, n)
    | _ => .error .rowMismatch
  let (rows, columns, shape) ← match b.shape with
    | [r] => pure (r, 1, [n])
    | [r, k] => pure (r, k, [n, k])
    | _ => .error .rowMismatch
  if rows ≠ m then .error .rowMismatch
  let x ← LinearSolver.leastSquares (ofTensor m n (← numbers a)) (ofTensor m columns (← numbers b))
  return Tensor.build shape fun index =>
    (x.entries[(index[0]?.getD 0) * columns + index[1]?.getD 0]?).getD Scalar.nan

end Regrid.Matrix

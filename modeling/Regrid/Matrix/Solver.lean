import Regrid.Fault
/-!
# Solver — rank, inverse and least squares

What the library needs of linear algebra is an interface: the rank of a matrix, the inverse of a square one, and the
least-squares solution of a system with the smallest norm.  A type of scalars brings its own solver.
-/
namespace Regrid

/-- **Solvers of linear systems.** -/
class LinearSolver (α : Type) where
  /-- The rank of a matrix. -/
  rank {m n : Nat} : Matrix m n α → Except (Fault α) Nat
  /-- The inverse of a square matrix. -/
  inverse {n : Nat} : Matrix n n α → Except (Fault α) (Matrix n n α)
  /-- The matrix `X` of smallest norm among those that minimise the norm of `A X - B`. -/
  leastSquares {m n k : Nat} : Matrix m n α → Matrix m k α → Except (Fault α) (Matrix n k α)

end Regrid
